import Jaull.Evaluation.RuntimeContract
import Jaull.Lib.FlagUnits
import Jaull.Lib.PyLaws

/-!
# Launch flags of a quality run

Which lists of backend flags `validate_runtime_execution` accepts, and what `placement_of` of
`jaull/evaluation/quality_records.py` reads back from them. The first goes through a list with one cursor,
the second looks at every position.
-/

namespace Jaull.Evaluation
open Jaull.Lib

section Placement

/-- Python `PLACEMENT_FLAGS`. -/
def placementFlagNames : List String :=
  ["--n-gpu-layers", "--device"]

/-- Python `name in PLACEMENT_FLAGS`. -/
def isPlacementFlag (name : Json) : Bool :=
  placementFlagNames.any fun flag => pyEq name (.str flag)

/-- Python `placement_of`. -/
def placementOf (record : Json) : Except Refusal (List (Json × Json)) := do
  let flags ← (← (← (← record.field "identity").field "runtime").field "backend_flags").members
  return lastValues isPlacementFlag [] flags

end Placement

section Strings

/-- An entry of strings as an entry of JSON values. -/
def asEntry (entry : PyString × PyString) : Json × Json :=
  (.str entry.1, .str entry.2)

/-- Whether a flag stands alone. -/
def isLone (chat : Bool) (name : PyString) : Bool :=
  (loneFlags chat).any fun lone => name = .text lone

variable {chat : Bool} {read all : List (PyString × PyString)} {name : PyString}

/-- A flag is known when its name was read. -/
lemma known_asEntry (read : List (PyString × PyString)) (name : PyString) : ((read.map asEntry).any fun entry =>
    bothNan (.str name) entry.1 || pyEq (.str name) entry.1) = decide (name ∈ read.map Prod.fst) := by
  rw [Bool.eq_iff_iff, List.any_eq_true, decide_eq_true_eq, List.mem_map]
  constructor
  · intro known
    obtain ⟨entry, mem, same⟩ := known
    obtain ⟨pair, inside, rfl⟩ := List.mem_map.mp mem
    have same : pyEq (.str name) (.str pair.1) = true := by simpa [asEntry, bothNan] using same
    exact ⟨pair, inside, Json.str.inj (str_pyEq.mp same)⟩
  · intro known
    obtain ⟨pair, inside, same⟩ := known
    refine ⟨asEntry pair, List.mem_map_of_mem inside, ?_⟩
    rw [Bool.or_eq_true]
    exact Or.inr (str_pyEq.mpr (congrArg Json.str same))

/-- A flag stands alone when its name is one of those. -/
lemma lone_str : ((loneFlags chat).any fun lone => pyEq (.str name) (.str lone)) = isLone chat name := by
  rw [isLone]
  refine congrArg (fun p => (loneFlags chat).any p) (funext fun lone => ?_)
  rw [Bool.eq_iff_iff, pyEq_str, decide_eq_true_eq, Json.str.injEq]

/-- A flag that was read is ambiguous. -/
lemma readFlags_known {rest : List Json} (mem : name ∈ read.map Prod.fst) :
    readFlags chat (read.map asEntry) (.str name :: rest) =
      .error (.value "Ambiguous quality server flags") := by
  have known := known_asEntry read name
  rw [decide_eq_true mem] at known
  cases rest with
  | nil => rw [readFlags, if_neg (by simp [hashable]), if_pos known]
  | cons value rest => rw [readFlags, if_neg (by simp [hashable]), if_pos known]

/-- A flag that stands alone is read as true. -/
lemma readFlags_lone {rest : List Json} (fresh : name ∉ read.map Prod.fst)
    (alone : isLone chat name = true) :
    readFlags chat (read.map asEntry) (.str name :: rest) =
      readFlags chat ((read ++ [(name, PyString.text "true")]).map asEntry) rest := by
  have unknown := known_asEntry read name
  rw [decide_eq_false fresh] at unknown
  rw [← lone_str] at alone
  rw [List.map_append]
  cases rest with
  | nil =>
    simp only [readFlags, unknown, alone, hashable, Bool.not_true, Bool.false_eq_true, if_false, if_true]
    rfl
  | cons value rest =>
    rw [readFlags, if_neg (by simp [hashable]), unknown, if_neg Bool.false_ne_true, if_pos alone]
    rfl

/-- Any other is read with its value. -/
lemma readFlags_pair {value : PyString} {rest : List Json} (fresh : name ∉ read.map Prod.fst)
    (pair : isLone chat name = false) :
    readFlags chat (read.map asEntry) (.str name :: .str value :: rest) =
      readFlags chat ((read ++ [(name, value)]).map asEntry) rest := by
  have unknown := known_asEntry read name
  rw [decide_eq_false fresh] at unknown
  rw [← lone_str] at pair
  rw [List.map_append, readFlags, if_neg (by simp [hashable]), unknown, if_neg Bool.false_ne_true,
    pair, if_neg Bool.false_ne_true]
  rfl

/-- Without a value it is incomplete. -/
lemma readFlags_last (fresh : name ∉ read.map Prod.fst) (pair : isLone chat name = false) :
    readFlags chat (read.map asEntry) [.str name] =
      .error (.value "Incomplete quality server flags") := by
  have unknown := known_asEntry read name
  rw [decide_eq_false fresh] at unknown
  rw [← lone_str] at pair
  rw [readFlags, if_neg (by simp [hashable]), unknown, if_neg Bool.false_ne_true, pair,
    if_neg Bool.false_ne_true]

/-- On strings, the loop reads the units of the list. -/
lemma readFlags_strings (flags : List PyString) :
    (readFlags chat (read.map asEntry) (flags.map .str)).toOption =
      (readUnits (isLone chat) (.text "true") read flags).map (List.map asEntry) := by
  induction read, flags using readUnits.induct (isLone chat) (PyString.text "true") with
  | case1 read =>
    rw [List.map_nil, readFlags, readUnits]
    rfl
  | case2 read name rest mem =>
    rw [List.map_cons, readFlags_known mem, readUnits_known (e := (name, name)) mem]
    rfl
  | case3 read name rest fresh alone ih =>
    rw [List.map_cons, readFlags_lone fresh alone, readUnits_lone (e := (name, name)) fresh alone]
    exact ih
  | case4 read name fresh pair =>
    rw [List.map_cons, List.map_nil, readFlags_last fresh (Bool.eq_false_iff.mpr pair), readUnits,
      if_neg fresh, if_neg pair]
    rfl
  | case5 read name fresh pair value rest ih =>
    have pair' : isLone chat name = false := Bool.eq_false_iff.mpr pair
    rw [List.map_cons, List.map_cons, readFlags_pair fresh pair',
      readUnits_pair (e := (name, value)) fresh pair']
    exact ih

/-- The flags are read as units. -/
lemma readFlags_eq_ok {flags : List PyString} {values : List (Json × Json)} :
    readFlags chat [] (flags.map .str) = .ok values ↔
      ∃ all, values = all.map asEntry ∧ readUnits (isLone chat) (.text "true") [] flags = some all := by
  have same := @readFlags_strings chat [] flags
  rw [List.map_nil] at same
  constructor
  · intro done
    rw [done] at same
    obtain ⟨all, found, eq⟩ := Option.map_eq_some_iff.mp same.symm
    exact ⟨all, eq.symm, found⟩
  · intro found
    obtain ⟨all, rfl, found⟩ := found
    rw [found, Option.map_some] at same
    cases result : readFlags chat [] (flags.map .str) with
    | error refusal =>
      rw [result] at same
      cases same
    | ok values =>
      rw [result] at same
      rw [Option.some.inj same]

/-- The value of a flag among the units. -/
lemma flagValue_asEntry (name : String) :
    flagValue (all.map asEntry) name = ((all.lookup (.text name)).map Json.str).getD .null := by
  rw [flagValue]
  induction all with
  | nil => rfl
  | cons entry rest ih =>
    rw [List.map_cons, List.find?_cons]
    obtain ⟨key, value⟩ := entry
    by_cases same : key = .text name
    · subst same
      rw [show pyEq (.str (.text name)) (asEntry (.text name, value)).1 = true from str_pyEq.mpr rfl]
      simp [asEntry]
    · have differs : pyEq (.str (.text name)) (asEntry (key, value)).1 = false := by
        rw [Bool.eq_false_iff]
        exact fun eq => same (Json.str.inj (str_pyEq.mp eq))
      rw [differs, lookup_cons_ne (Ne.symm same)]
      exact ih

/-- With different names, a flag has a value exactly when the two stand together. -/
lemma flagValue_eq_str (nodup : (all.map Prod.fst).Nodup) {name : String} {value : PyString} :
    pyEq (flagValue (all.map asEntry) name) (.str value) = true ↔ (PyString.text name, value) ∈ all := by
  rw [pyEq_str, flagValue_asEntry]
  constructor
  · intro eq
    cases found : all.lookup (.text name) with
    | none =>
      rw [found] at eq
      cases eq
    | some other =>
      rw [found] at eq
      exact Json.str.inj eq ▸ mem_of_lookup found
  · intro mem
    rw [lookup_of_mem nodup mem]
    rfl

end Strings

section Units
variable {chat : Bool} {context port : ℤ} {backend : String} {device : PyString}
  {all : List (PyString × PyString)}

/-- Flags and their values in the program, as strings of Python. -/
def asStrings (flags : List (String × String)) : List (PyString × PyString) :=
  flags.map fun flag => (.text flag.1, .text flag.2)

/-- The flags that place a run on a device. -/
def placementUnits (backend : String) (device : PyString) : List (PyString × PyString) :=
  if backend = "cpu" then [("--n-gpu-layers", "0")]
  else [("--n-gpu-layers", "-1"), ("--device", device)]

/-- All flags of a run. -/
def launchUnits (context port : ℤ) (chat : Bool) (backend : String) (device : PyString) :
    List (PyString × PyString) :=
  asStrings (fixedFlags context port chat) ++ placementUnits backend device

/-- Whether a device is one of a backend. -/
def deviceFits (backend : String) (device : PyString) : Bool :=
  if backend = "cpu" then device = .text "none"
  else isDeviceOf (if backend = "cuda" then "CUDA" else "Vulkan") device

/-- A number is written with digits and at most a sign. -/
lemma toString_ne {n : ℤ} {text : String} {c : Char} (mem : c ∈ text.toList) (dash : c ≠ '-')
    (other : c.isDigit = false) : toString n ≠ text := by
  intro eq
  rw [← eq, Int.toString_eq_repr, Int.repr_eq_if] at mem
  split at mem
  · rw [Nat.toList_repr] at mem
    exact allDigits_toDigits _ |>.ne other c mem rfl
  · rw [String.toList_append, Nat.toList_repr, List.mem_append] at mem
    cases mem with
    | inl sign => exact dash (by simpa using sign)
    | inr digit => exact allDigits_toDigits _ |>.ne other c digit rfl

/-- Layers and device are the flags of the placement. -/
lemma isPlacementFlag_str {name : PyString} :
    isPlacementFlag (.str name) = true ↔ name = .text "--n-gpu-layers" ∨ name = .text "--device" := by
  simp [isPlacementFlag, placementFlagNames, pyEq_str]

/-- A launch sets no flag twice. -/
lemma launchUnits_nodup : ((launchUnits context port chat backend device).map Prod.fst).Nodup := by
  cases chat with
  | true =>
    by_cases cpu : backend = "cpu"
    · simp [launchUnits, asStrings, fixedFlags, placementUnits, cpu]
    · simp [launchUnits, asStrings, fixedFlags, placementUnits, cpu]
  | false =>
    by_cases cpu : backend = "cpu"
    · simp [launchUnits, asStrings, fixedFlags, placementUnits, cpu]
    · simp [launchUnits, asStrings, fixedFlags, placementUnits, cpu]

/-- A flag that stands alone is read as true. -/
lemma launchUnits_lone : ∀ entry ∈ launchUnits context port chat backend device,
    isLone chat entry.1 = true → entry.2 = .text "true" := by
  cases chat with
  | true =>
    by_cases cpu : backend = "cpu"
    · simp [launchUnits, asStrings, fixedFlags, placementUnits, cpu, isLone, loneFlags]
    · simp [launchUnits, asStrings, fixedFlags, placementUnits, cpu, isLone, loneFlags]
  | false =>
    by_cases cpu : backend = "cpu"
    · simp [launchUnits, asStrings, fixedFlags, placementUnits, cpu, isLone, loneFlags]
    · simp [launchUnits, asStrings, fixedFlags, placementUnits, cpu, isLone, loneFlags]

/-- A flag is no device. -/
lemma deviceFits_dash (name : String) (dashes : name = "--device" ∨ name = "--n-gpu-layers") :
    deviceFits backend (.text name) = false := by
  have plain : name ≠ "none" := by
    cases dashes with
    | inl eq => rw [eq]; decide
    | inr eq => rw [eq]; decide
  have other : ∀ label ∈ ["CUDA", "Vulkan"], isDeviceOf label (.text name) = false := by
    cases dashes with
    | inl eq => rw [eq]; decide
    | inr eq => rw [eq]; decide
  rw [deviceFits]
  split
  · exact decide_eq_false fun eq => plain (PyString.text.inj eq)
  · split
    · exact other "CUDA" (by decide)
    · exact other "Vulkan" (by decide)

/-- No flag of a run has the name of a placement flag for its value. -/
lemma launchUnits_values (fits : deviceFits backend device = true) :
    ∀ entry ∈ launchUnits context port chat backend device,
      isPlacementFlag (.str entry.2) = false := by
  have number (n : ℤ) : isPlacementFlag (.str (.text n.repr)) = false := by
    rw [Bool.eq_false_iff, ne_eq, isPlacementFlag_str, PyString.text.injEq, PyString.text.injEq]
    rintro (eq | eq)
    · exact toString_ne (c := 'n') (by decide) (by decide) rfl eq
    · exact toString_ne (c := 'd') (by decide) (by decide) rfl eq
  have free : isPlacementFlag (.str device) = false := by
    rw [Bool.eq_false_iff, ne_eq, isPlacementFlag_str]
    rintro (eq | eq)
    · rw [eq, deviceFits_dash _ (Or.inr rfl)] at fits
      cases fits
    · rw [eq, deviceFits_dash _ (Or.inl rfl)] at fits
      cases fits
  have fixed (text : String) (plain : text ≠ "--n-gpu-layers" ∧ text ≠ "--device") :
      isPlacementFlag (.str (.text text)) = false := by
    rw [Bool.eq_false_iff, ne_eq, isPlacementFlag_str, PyString.text.injEq, PyString.text.injEq]
    exact fun eq => eq.elim plain.1 plain.2
  cases chat with
  | true =>
    by_cases cpu : backend = "cpu"
    · simp [launchUnits, asStrings, fixedFlags, placementUnits, cpu, number, fixed]
    · simp [launchUnits, asStrings, fixedFlags, placementUnits, cpu, number, fixed, free]
  | false =>
    by_cases cpu : backend = "cpu"
    · simp [launchUnits, asStrings, fixedFlags, placementUnits, cpu, number, fixed]
    · simp [launchUnits, asStrings, fixedFlags, placementUnits, cpu, number, fixed, free]

/-- The flags of the placement among those of a launch. -/
lemma filter_launchUnits :
    ((launchUnits context port chat backend device).filter fun entry =>
      isPlacementFlag (.str entry.1)) = placementUnits backend device := by
  cases chat with
  | true =>
    by_cases cpu : backend = "cpu"
    · simp [launchUnits, asStrings, fixedFlags, placementUnits, cpu, isPlacementFlag_str]
    · simp [launchUnits, asStrings, fixedFlags, placementUnits, cpu, isPlacementFlag_str]
  | false =>
    by_cases cpu : backend = "cpu"
    · simp [launchUnits, asStrings, fixedFlags, placementUnits, cpu, isPlacementFlag_str]
    · simp [launchUnits, asStrings, fixedFlags, placementUnits, cpu, isPlacementFlag_str]

/-- They are those of the launch that place. -/
lemma mem_placementUnits {entry : PyString × PyString} :
    entry ∈ placementUnits backend device ↔
      entry ∈ launchUnits context port chat backend device ∧
        isPlacementFlag (.str entry.1) = true := by
  rw [← @filter_launchUnits chat context port backend device, List.mem_filter]

/-- The fixed flags are there, and no others but those that place the run. -/
lemma flagsAreFixed_asEntry (nodup : (all.map Prod.fst).Nodup) {fixed : List (String × String)} :
    flagsAreFixed (all.map asEntry) fixed = true ↔
      (∀ entry ∈ asStrings fixed, entry ∈ all) ∧
        ∀ entry ∈ all, entry.1 ∈ (asStrings fixed).map Prod.fst ∨
          isPlacementFlag (.str entry.1) = true := by
  rw [flagsAreFixed, Bool.and_eq_true, List.all_eq_true, List.all_eq_true]
  constructor
  · intro holds
    obtain ⟨there, names⟩ := holds
    constructor
    · intro entry mem
      obtain ⟨flag, inside, rfl⟩ := List.mem_map.mp mem
      exact (flagValue_eq_str nodup).mp (there flag inside)
    · intro entry mem
      have known := names _ (List.mem_map_of_mem mem)
      obtain ⟨name, inside, same⟩ := List.any_eq_true.mp known
      -- names are texts, and texts are equal when Python finds them equal
      have eq : entry.1 = .text name := Json.str.inj (str_pyEq.mp same)
      rw [List.mem_append, List.mem_map] at inside
      cases inside with
      | inl flag =>
        obtain ⟨flag, inside, rfl⟩ := flag
        exact Or.inl (eq ▸ List.mem_map.mpr ⟨_, List.mem_map_of_mem inside, rfl⟩)
      | inr placement =>
        exact Or.inr (List.any_eq_true.mpr ⟨name, placement, pyEq_str.mpr (congrArg Json.str eq)⟩)
  · intro holds
    obtain ⟨there, names⟩ := holds
    constructor
    · intro flag mem
      exact (flagValue_eq_str nodup).mpr (there _ (List.mem_map_of_mem mem))
    · intro pair mem
      obtain ⟨entry, inside, rfl⟩ := List.mem_map.mp mem
      rw [List.any_eq_true]
      cases names entry inside with
      | inl flag =>
        obtain ⟨named, mem', eq⟩ := List.mem_map.mp flag
        obtain ⟨flag, mem'', rfl⟩ := List.mem_map.mp mem'
        exact ⟨flag.1, List.mem_append_left _ (List.mem_map_of_mem mem''),
          str_pyEq.mpr (congrArg Json.str eq.symm)⟩
      | inr placement =>
        obtain ⟨name, mem', eq⟩ := List.any_eq_true.mp placement
        exact ⟨name, List.mem_append_right _ mem',
          str_pyEq.mpr (pyEq_str.mp eq)⟩

end Units

section Acceptance

/-- What a record says of the server that ran it, apart from the device and the flags. -/
structure OtherFieldsValid (execution runtime : Json) (backend : String) : Prop where
  keys : execution.setIs ["protocol", "backend", "device", "version_text", "server_sha256",
    "fingerprint", "capability_sha256", "device_name"] = .ok true
  protocol : execution.field "protocol" = .ok (.str qualityRuntimeProtocol)
  known : backend ∈ ["cpu", "cuda", "vulkan"]
  runsOn : execution.field "backend" = .ok (.str backend)
  server : ∃ sha : PyString, isHex 64 sha = true ∧ execution.field "server_sha256" = .ok (.str sha) ∧
    runtime.field "server_sha256" = .ok (.str sha)
  fingerprint : ∃ version print : PyString, execution.field "version_text" = .ok (.str version) ∧
    fingerprintFromVersion (.str version) = .ok print.codes ∧
    execution.field "fingerprint" = .ok (.str print) ∧ runtime.field "fingerprint" = .ok (.str print)
  capability : ∃ sha : PyString, isHex 64 sha = true ∧
    execution.field "capability_sha256" = .ok (.str sha)
  named : ∃ name : PyString, isBlank name = false ∧ execution.field "device_name" = .ok (.str name)

variable {execution runtime device : Json} {backend : String} {context port : ℤ} {chat : Bool}
  {flags : List PyString}

/-- What is left to check of the flags and the device. -/
def checkFlags (backend : String) (device : Json) (flags : List PyString) (context port : ℤ)
    (chat : Bool) : Except Refusal Unit := do
  let values ← readFlags chat [] (flags.map .str)
  refuseIf (!flagsAreFixed values (fixedFlags context port chat))
    "Unsupported effective quality server configuration"
  if pyEq (.str (.text backend)) (.str (.text "cpu")) then
    let placed := "CPU evaluation must use zero GPU layers and no GPU device"
    refuseIf (!pyEq device (.str "none")) placed
    refuseIf (← (Json.arr (flags.map .str)).holds "--device") placed
    refuseIf (!pyEq (flagValue values "--n-gpu-layers") (.str "0")) placed
  else
    let label := if pyEq (.str (.text backend)) (.str (.text "cuda")) then "CUDA" else "Vulkan"
    refuseIf (!device.string?.any (isDeviceOf label) || !pyEq (flagValue values "--device") device ||
        !pyEq (flagValue values "--n-gpu-layers") (.str "-1"))
      "GPU evaluation requires its confirmed device and full offload"

/-- Of a record that is valid otherwise the flags are checked. -/
lemma validateObservableExecution_eq (valid : OtherFieldsValid execution runtime backend)
    (placed : execution.field "device" = .ok device)
    (given : runtime.field "backend_flags" = .ok (.arr (flags.map .str))) :
    validateObservableExecution execution runtime context port chat =
      checkFlags backend device flags context port chat := by
  obtain ⟨server, hexServer, serverEq, serverEq'⟩ := valid.server
  obtain ⟨version, print, versionEq, printEq, fingerprintEq, fingerprintEq'⟩ := valid.fingerprint
  obtain ⟨capability, hexCapability, capabilityEq⟩ := valid.capability
  obtain ⟨name, notBlank, nameEq⟩ := valid.named
  have listed : isOneOf (.str backend) [.str "cpu", .str "cuda", .str "vulkan"] = .ok true := by
    rw [isOneOf, if_pos (show hashable (.str backend) = true from rfl)]
    refine congrArg Except.ok (List.any_eq_true.mpr ⟨.str backend, ?_, pyEq_str.mpr rfl⟩)
    simpa using valid.known
  have same (value : PyString) : pyEq (.str value) (.str value) = true := pyEq_str.mpr rfl
  have printed : isTextOf print.codes (.str print) = true := decide_eq_true rfl
  have readable : (Json.str name).string?.all isBlank = false := notBlank
  have passed (text : String) : refuseIf (!true) text = .ok () := rfl
  simp only [validateObservableExecution, valid.keys, valid.protocol, valid.runsOn, serverEq,
    serverEq', versionEq, printEq, fingerprintEq, fingerprintEq', capabilityEq, nameEq, given, placed,
    listed, same, printed, readable, matchesHex, hexServer, hexCapability, passed, ok_bind,
    flagValues, checkFlags]
  rfl

/-- A word is the name or the value of a flag. -/
lemma mem_of_spelled {units : List (PyString × PyString)} {word : PyString}
    (mem : word ∈ units.flatMap (spelled (isLone chat))) :
    ∃ entry ∈ units, word = entry.1 ∨ word = entry.2 := by
  obtain ⟨entry, inside, one⟩ := List.mem_flatMap.mp mem
  refine ⟨entry, inside, ?_⟩
  cases alone : isLone chat entry.1 with
  | true =>
    rw [spelled_lone alone, List.mem_singleton] at one
    exact Or.inl one
  | false =>
    rw [spelled_pair alone, List.mem_cons, List.mem_singleton] at one
    exact one

/-- Every flag is spelled with its name. -/
lemma name_mem_spelled {units : List (PyString × PyString)} {entry : PyString × PyString}
    (mem : entry ∈ units) : entry.1 ∈ units.flatMap (spelled (isLone chat)) := by
  refine List.mem_flatMap.mpr ⟨entry, mem, ?_⟩
  cases alone : isLone chat entry.1 with
  | true => exact spelled_lone alone ▸ List.mem_cons_self
  | false => exact spelled_pair alone ▸ List.mem_cons_self

/-- A list of texts holds the texts in it. -/
lemma holds_strings (name : String) :
    (Json.arr (flags.map .str)).holds name = .ok (decide (PyString.text name ∈ flags)) := by
  rw [Json.holds, Except.ok.injEq, Bool.eq_iff_iff, List.any_eq_true, decide_eq_true_eq]
  constructor
  · intro found
    obtain ⟨item, mem, same⟩ := found
    obtain ⟨word, inside, rfl⟩ := List.mem_map.mp mem
    exact Json.str.inj (pyEq_str.mp same) ▸ inside
  · intro mem
    exact ⟨.str name, List.mem_map_of_mem mem, pyEq_str.mpr rfl⟩

/-- The checks behind the cursor, for the units that it found. -/
lemma checkFlags_units {all : List (PyString × PyString)}
    (found : readUnits (isLone chat) (.text "true") [] flags = some all) :
    checkFlags backend device flags context port chat = .ok () ↔
      flagsAreFixed (all.map asEntry) (fixedFlags context port chat) = true ∧
        ∃ d : PyString, device = .str d ∧ deviceFits backend d = true ∧
          (∀ entry ∈ placementUnits backend d, entry ∈ all) ∧
          (backend = "cpu" → PyString.text "--device" ∉ flags) := by
  have values : readFlags chat [] (flags.map .str) = .ok (all.map asEntry) :=
    readFlags_eq_ok.mpr ⟨all, rfl, found⟩
  have nodup := (readUnits_eq_some.mp found).1
  rw [checkFlags, values, ok_bind]
  by_cases cpu : backend = "cpu"
  · simp only [if_true, holds_strings, ok_bind, bind_eq_ok, refuseIf_eq_ok, exists_const,
      Bool.not_eq_false', placementUnits, deviceFits, cpu, forall_const, flagValue_eq_str nodup,
      decide_eq_false_iff_not, decide_eq_true_eq, List.mem_singleton, forall_eq, pyEq_str]
    constructor
    · intro holds
      obtain ⟨fixed, none, absent, layers⟩ := holds
      exact ⟨fixed, _, none, rfl, layers, absent⟩
    · intro holds
      obtain ⟨fixed, d, rfl, rfl, layers, absent⟩ := holds
      exact ⟨fixed, rfl, absent, layers⟩
  · -- on another backend the name of the device is a flag of its own
    have no : pyEq (.str (.text backend)) (.str (.text "cpu")) = false := by
      rw [Bool.eq_false_iff, ne_eq, pyEq_str]
      exact fun eq => cpu (PyString.text.inj (Json.str.inj eq))
    have cuda : pyEq (.str (.text backend)) (.str (.text "cuda")) = decide (backend = "cuda") := by
      rw [Bool.eq_iff_iff, pyEq_str, decide_eq_true_eq, Json.str.injEq, PyString.text.injEq]
    simp only [no, cuda, Bool.false_eq_true, if_false, bind_eq_ok, refuseIf_eq_ok, exists_const,
      Bool.not_eq_false', Bool.or_eq_false_iff, placementUnits, deviceFits, cpu, false_implies,
      and_true, flagValue_eq_str nodup, List.forall_mem_cons, decide_eq_true_eq]
    constructor
    · intro holds
      obtain ⟨fixed, ⟨fits, gpu⟩, layers⟩ := holds
      cases device with
      | str d => exact ⟨fixed, d, rfl, fits, layers, (flagValue_eq_str nodup).mp gpu, List.forall_mem_nil _⟩
      | _ => cases fits
    · intro holds
      obtain ⟨fixed, d, rfl, fits, layers, gpu, -⟩ := holds
      exact ⟨fixed, ⟨fits, (flagValue_eq_str nodup).mpr gpu⟩, layers⟩

/-- The accepted lists are the arrangements of the units of a run. -/
lemma checkFlags_ok_iff :
    checkFlags backend device flags context port chat = .ok () ↔
      ∃ d : PyString, device = .str d ∧ deviceFits backend d = true ∧
        ∃ units : List (PyString × PyString),
          units.Perm (launchUnits context port chat backend d) ∧
          flags = units.flatMap (spelled (isLone chat)) := by
  constructor
  · intro ok
    have read := ok
    rw [checkFlags, bind_eq_ok] at read
    obtain ⟨values, read, -⟩ := read
    obtain ⟨all, rfl, found⟩ := readFlags_eq_ok.mp read
    -- the accepted units hold every fixed flag and the placement, and no other name
    obtain ⟨fixed, d, rfl, fits, placed, absent⟩ := (checkFlags_units found).mp ok
    obtain ⟨nodup, rfl, -⟩ := readUnits_eq_some.mp found
    obtain ⟨there, names⟩ := (flagsAreFixed_asEntry nodup).mp fixed
    refine ⟨d, rfl, fits, all, perm_of_entries nodup launchUnits_nodup ?_ ?_, rfl⟩
    · intro entry mem
      cases List.mem_append.mp mem with
      | inl flag => exact there entry flag
      | inr placement => exact placed entry placement
    · intro entry mem
      rw [launchUnits, List.map_append, List.mem_append]
      cases names entry mem with
      | inl flag => exact Or.inl flag
      | inr placement =>
        -- a command for the CPU names no GPU layers
        by_cases cpu : backend = "cpu"
        · cases isPlacementFlag_str.mp placement with
          | inl layers => simp [placementUnits, cpu, layers]
          | inr gpu => exact absurd (gpu ▸ name_mem_spelled mem) (absent cpu)
        · cases isPlacementFlag_str.mp placement with
          | inl layers => simp [placementUnits, cpu, layers]
          | inr gpu => simp [placementUnits, cpu, gpu]
  · intro arranged
    obtain ⟨d, rfl, fits, units, perm, rfl⟩ := arranged
    have nodup : (units.map Prod.fst).Nodup := (perm.map Prod.fst).nodup_iff.mpr launchUnits_nodup
    have marked : ∀ entry ∈ units, isLone chat entry.1 = true → entry.2 = .text "true" :=
      fun entry mem => launchUnits_lone entry (perm.mem_iff.mp mem)
    -- conversely, units in any order are read back as they were spelled
    have found := readUnits_eq_some.mpr ⟨nodup, rfl, marked⟩
    refine (checkFlags_units found).mpr ⟨(flagsAreFixed_asEntry nodup).mpr ⟨?_, ?_⟩, d, rfl, fits, ?_, ?_⟩
    · exact fun entry mem => perm.mem_iff.mpr (List.mem_append_left _ mem)
    · intro entry mem
      cases List.mem_append.mp (perm.mem_iff.mp mem) with
      | inl flag => exact Or.inl (List.mem_map_of_mem flag)
      | inr placement =>
        exact Or.inr ((@mem_placementUnits chat context port _ _ _).mp placement).2
    · exact fun entry mem => perm.mem_iff.mpr (List.mem_append_right _ mem)
    · intro cpu mem
      obtain ⟨entry, inside, eq⟩ := mem_of_spelled mem
      have inside := perm.mem_iff.mp inside
      cases eq with
      | inl name =>
        have placement : isPlacementFlag (.str entry.1) = true :=
          isPlacementFlag_str.mpr (Or.inr name.symm)
        have one := mem_placementUnits.mpr ⟨inside, placement⟩
        rw [placementUnits, if_pos cpu, List.mem_singleton] at one
        rw [one] at name
        exact absurd name (by decide)
      | inr value =>
        -- no value reads like the name of a flag
        have free := launchUnits_values fits entry inside
        rw [← value] at free
        cases free

/-- Such a record is accepted when its flags are. -/
lemma validateRuntimeExecution_eq_ok (valid : OtherFieldsValid execution runtime backend)
    (placed : execution.field "device" = .ok device)
    (given : runtime.field "backend_flags" = .ok (.arr (flags.map .str))) :
    validateRuntimeExecution execution runtime context port chat = .ok () ↔
      checkFlags backend device flags context port chat = .ok () := by
  obtain ⟨fields, rfl, stated⟩ := field_eq_ok.mp valid.protocol
  have ours : pyEq (getField fields "protocol") (.str externalProtocol) = false := by
    rw [getField, stated]
    decide
  rw [validateRuntimeExecution, Json.entries, ok_bind, if_neg (by rw [ours]; exact Bool.false_ne_true),
    lifted_eq_ok, validateObservableExecution_eq valid placed given]

/-- Units are spelled as the flags they are read from. -/
lemma spelled_asEntry (entry : PyString × PyString) :
    (spelled (isLone chat) entry).map Json.str =
      spelled (fun name => (loneFlags chat).any fun lone => pyEq name (.str lone)) (asEntry entry) := by
  cases alone : isLone chat entry.1 with
  | true => rw [spelled_lone alone, spelled_lone (by rw [← alone]; exact lone_str)]; rfl
  | false => rw [spelled_pair alone, spelled_pair (by rw [← alone]; exact lone_str)]; rfl

/-- What the second reader finds among the units of a run. -/
lemma lastValues_units {d : PyString} {units : List (PyString × PyString)}
    (fits : deviceFits backend d = true)
    (perm : units.Perm (launchUnits context port chat backend d)) :
    (lastValues isPlacementFlag [] ((units.flatMap (spelled (isLone chat))).map Json.str)).Perm
      ((placementUnits backend d).map asEntry) := by
  have nodup : ((units.map asEntry).map Prod.fst).Nodup := by
    have strings : (units.map Prod.fst).Nodup := (perm.map Prod.fst).nodup_iff.mpr launchUnits_nodup
    rw [List.map_map, show Prod.fst ∘ asEntry = Json.str ∘ Prod.fst from rfl, ← List.map_map]
    exact strings.map fun _ _ => Json.str.inj
  have apart : ∀ entry ∈ units.map asEntry, isPlacementFlag entry.1 = true →
      (fun name => (loneFlags chat).any fun lone => pyEq name (.str lone)) entry.1 = false := by
    intro entry mem placement
    obtain ⟨pair, -, rfl⟩ := List.mem_map.mp mem
    refine lone_str.trans ?_
    cases isPlacementFlag_str.mp placement with
    | inl layers => rw [layers]; cases chat <;> decide
    | inr gpu => rw [gpu]; cases chat <;> decide
  have values : ∀ entry ∈ units.map asEntry, isPlacementFlag entry.2 = false := by
    intro entry mem
    obtain ⟨pair, inside, rfl⟩ := List.mem_map.mp mem
    exact launchUnits_values fits pair (perm.mem_iff.mp inside)
  have words : (units.flatMap (spelled (isLone chat))).map Json.str =
      (units.map asEntry).flatMap
        (spelled fun name => (loneFlags chat).any fun lone => pyEq name (.str lone)) := by
    rw [List.map_flatMap, List.flatMap_map]
    exact List.flatMap_congr fun entry _ => spelled_asEntry entry
  rw [words, lastValues_spelled nodup apart values, List.nil_append, List.filter_map]
  have wanted := (perm.filter fun entry => isPlacementFlag (.str entry.1)).map asEntry
  rw [filter_launchUnits] at wanted
  exact wanted

/-- Whatever the order of its units, a list of flags is accepted for the units that it has, and the
placement of a record is read from those that place it. -/
theorem validateRuntimeExecution_flags (valid : OtherFieldsValid execution runtime backend)
    (given : runtime.field "backend_flags" = .ok (.arr (flags.map .str))) :
    (validateRuntimeExecution execution runtime context port chat = .ok () ↔
      ∃ d : PyString, execution.field "device" = .ok (.str d) ∧ deviceFits backend d = true ∧
        ∃ units : List (PyString × PyString),
          units.Perm (launchUnits context port chat backend d) ∧
          flags = units.flatMap (spelled (isLone chat))) ∧
    (validateRuntimeExecution execution runtime context port chat = .ok () →
      ∀ (d : PyString) (record identity : Json), execution.field "device" = .ok (.str d) →
        record.field "identity" = .ok identity → identity.field "runtime" = .ok runtime →
        ∃ placement, placementOf record = .ok placement ∧
          placement.Perm ((placementUnits backend d).map asEntry)) := by
  obtain ⟨fields, dict, -⟩ := field_eq_ok.mp valid.protocol
  obtain ⟨device, placed⟩ := setIs_field dict valid.keys (by simp : "device" ∈ _)
  rw [validateRuntimeExecution_eq_ok valid placed given, checkFlags_ok_iff, placed]
  constructor
  · constructor
    · intro arranged
      obtain ⟨d, rfl, rest⟩ := arranged
      exact ⟨d, rfl, rest⟩
    · intro arranged
      obtain ⟨d, eq, rest⟩ := arranged
      exact ⟨d, Except.ok.inj eq, rest⟩
  · intro arranged d record identity device holds runs
    obtain ⟨d', eq, fits, units, perm, spelling⟩ := arranged
    have same : d' = d := Json.str.inj (eq.symm.trans (Except.ok.inj device))
    subst same
    refine ⟨_, ?_, lastValues_units fits perm⟩
    rw [placementOf, holds, ok_bind, runs, ok_bind, given, ok_bind, Json.members, ok_bind, spelling]
    rfl

/-- An execution on a card. -/
def cardExecution : Json :=
  .obj [("protocol", .str qualityRuntimeProtocol), ("backend", .str "cuda"), ("device", .str "CUDA0"),
    ("version_text", .str "version: 10357 (689e227db)"),
    ("server_sha256", .str (String.ofList (List.replicate 64 'a'))),
    ("fingerprint", .str "b10357-689e227db"),
    ("capability_sha256", .str (String.ofList (List.replicate 64 'b'))), ("device_name", .str "RTX")]

/-- The flags of a run on that card, the placement last. -/
def cardFlags : List PyString :=
  ["--no-context-shift", "--no-cache-prompt", "--host", "127.0.0.1", "--port", "18083", "--ctx-size",
    "2048", "--parallel", "1", "--threads", "4", "--seed", "0", "--verbosity", "4", "--device", "CUDA0",
    "--n-gpu-layers", "-1"]

/-- What its record says of the runtime. -/
def cardRuntime : Json :=
  .obj [("server_sha256", .str (String.ofList (List.replicate 64 'a'))),
    ("fingerprint", .str "b10357-689e227db"), ("backend_flags", .arr (cardFlags.map .str))]

/-- The flags of the example are accepted. -/
theorem cardFlags_accepted :
    validateRuntimeExecution cardExecution cardRuntime 2048 18083 false = .ok () := by
  have valid : OtherFieldsValid cardExecution cardRuntime "cuda" := by
    refine ⟨rfl, rfl, by decide, rfl, ⟨_, ?_, rfl, rfl⟩, ⟨_, _, rfl, ?_, rfl, rfl⟩, ⟨_, ?_, rfl⟩,
      ⟨_, ?_, rfl⟩⟩
    · decide
    · decide +kernel
    · decide
    · decide
  refine (validateRuntimeExecution_flags valid rfl).1.mpr ⟨"CUDA0", rfl, by decide,
    asStrings [("--no-context-shift", "true"), ("--no-cache-prompt", "true"), ("--host", "127.0.0.1"),
      ("--port", "18083"), ("--ctx-size", "2048"), ("--parallel", "1"), ("--threads", "4"),
      ("--seed", "0"), ("--verbosity", "4"), ("--device", "CUDA0"), ("--n-gpu-layers", "-1")], ?_, rfl⟩
  decide

end Acceptance

end Jaull.Evaluation
