import Jaull.Lib.PyObject
import Jaull.Lib.Regex
import Jaull.Text.Case
import Jaull.Text.WordTables

/-!
# Runtime contracts

Port of the identity checks of `jaull/evaluation/quality_runtime.py` and
`jaull/evaluation/quality_external.py`: what a record may say about the server that ran it. How the raw
evidence of a run is judged is left to the surroundings.
-/

namespace Jaull.Evaluation
open Jaull.Lib Jaull.Text

/-- What `json.loads` makes of a text. The nesting may exhaust the stack of the interpreter. -/
inductive Decoded
  | tree (value : Json)
  | malformed (reason : String)
  | tooDeep

/-- How the evidence of a run is judged. `missing` stands for the lookups that fail in it, `infinite` for a
buffer size of a log that is too large for a float and cannot be rounded. -/
inductive Observation
  | confirmed
  | contradicted (text : String)
  | missing
  | tooDeep
  | infinite

/-- The functions that walk through a value by calling themselves, so that every level of it takes a part of
the interpreter's stack: `known` over the parts of an identity, and the encoder of an indented document. The
walks of the compact encoder and of comparisons are made in C, like the decoder's, and get as deep as that. -/
inductive Walk
  | scoring
  | chat
  | document
  deriving DecidableEq, Repr

/-- What the checks take from outside: the SHA-256 hex digest of a text that is encoded in UTF-8, the
decoder of JSON texts, the levels that the stack of the interpreter has left for a walk, and the verdicts on
raw evidence. -/
structure Surroundings where
  sha256 : List ℕ → String
  loads : PyString → Decoded
  levels : Walk → ℕ
  observed : Json → Json → ℤ → Observation
  observedExternal : Json → Json → Observation

/-- Python `json.loads`. -/
def Surroundings.decode (env : Surroundings) (text : PyString) : Except PyError Json :=
  match env.loads text with
  | .tree value => .ok value
  | .malformed reason => .error (.refused (.value reason))
  | .tooDeep => .error .recursion

/-- The exceptions of a verdict, with the text for missing evidence. -/
def Observation.raised (missing : String) : Observation → Except PyError Unit
  | .confirmed => .ok ()
  | .contradicted text => .error (.refused (.value text))
  | .missing => .error (.refused (.value missing))
  | .tooDeep => .error .recursion
  | .infinite => .error .overflow

/-- Python `validate_runtime_observation`. -/
def validateRuntimeObservation (env : Surroundings) (runtime raw : Json) (context : ℤ) :
    Except PyError Unit :=
  (env.observed runtime raw context).raised "Missing observable runtime execution evidence"

/-- Python `validate_external_observation`. -/
def validateExternalObservation (env : Surroundings) (runtime raw : Json) : Except PyError Unit :=
  (env.observedExternal runtime raw).raised "Missing external runtime evidence."

section Patterns

/-- A lower-case hexadecimal digit. -/
def isHexCode (n : ℕ) : Bool :=
  48 ≤ n && n ≤ 57 || 97 ≤ n && n ≤ 102

/-- Whether code points are exactly this many lower-case hexadecimal digits. -/
def codesAreHex (width : ℕ) (codes : List ℕ) : Bool :=
  codes.length = width && codes.all isHexCode

/-- Whether a string is exactly this many lower-case hexadecimal digits. -/
def isHex (width : ℕ) (s : PyString) : Bool :=
  codesAreHex width s.codes

/-- Python `re.fullmatch("[0-9a-f]{width}", value) is not None`. -/
def matchesHex (width : ℕ) : Json → Except Refusal Bool
  | .str s => .ok (isHex width s)
  | _ => .error .type

/-- The code points of a text in the program. -/
def codesOf (text : String) : List ℕ :=
  text.toList.map Char.toNat

/-- White space. -/
def isSpaceCode (n : ℕ) : Bool :=
  isSpace (Char.ofNat n)

/-- Python `not s.strip()`. -/
def isBlank (s : PyString) : Bool :=
  s.codes.all isSpaceCode

/-- The build numbers and commits in a version text (Python `re.findall(BUILD_VERSION_PATTERN, …)`). -/
def buildVersions (version : PyString) : List (List ℕ × List ℕ) :=
  let space := isSpaceCode
  let opening :=
    ((Pattern.literal (codesOf "version:")).seq (.star space)).seq
      (((Pattern.plus fun n => !space n).seq (.star space)).seq
        ((Pattern.literal (codesOf "(build")).seq (.plus space))).opt
  let tag := (Pattern.wordStart isWordCodePoint).seq (.literal (codesOf "b"))
  let commit :=
    ((((Pattern.literal (codesOf ",")).seq (.star space)).seq (.literal (codesOf "commit"))).seq
      (.plus space)).alt
      ((Pattern.star space).seq ((Pattern.literal (codesOf "(")).alt (.literal (codesOf "-"))))
  findPairs (opening.alt tag) (.plus isDigitCode) commit (.between isHexCode 7 40)
    (Pattern.literal (codesOf ")")).opt (version.codes.length + 1) ⟨none, version.codes⟩

/-- Python `fingerprint_from_version`, as code points. -/
def fingerprintFromVersion : Json → Except Refusal (List ℕ)
  | .str version =>
    match (buildVersions version).dedup, buildVersions version with
    | [_], (build, commit) :: _ => .ok (codesOf "b" ++ build ++ codesOf "-" ++ commit)
    | _, _ => .error (.value "Runtime build/commit could not be confirmed from --version.")
  | _ => .error .type

/-- Whether a value is the string with these code points. -/
def isTextOf (codes : List ℕ) : Json → Bool
  | .str s => s.codes = codes
  | _ => false

/-- A device name of a backend: its label with a number. -/
def isDeviceOf (label : String) (s : PyString) : Bool :=
  let number := s.codes.drop label.length
  s.codes.take label.length = codesOf label && !number.isEmpty && number.all isDigitCode

end Patterns

section Endpoint

/-- An ASCII letter in lower case. -/
def lowerAscii (c : Char) : Char :=
  if 'A' ≤ c ∧ c ≤ 'Z' then Char.ofNat (c.toNat + 32) else c

/-- Whether `urlsplit` reads a text as a loopback origin with a port. Brackets around a host always lead
to another host or a `ValueError`. -/
def isLoopbackOrigin (endpoint : String) : Bool :=
  let url := (endpoint.toList.dropWhile (·.toNat ≤ 32)).filter (· ∉ ['\t', '\r', '\n'])
  let rest := url.drop 5
  let netloc := (rest.drop 2).takeWhile (· ∉ ['/', '?', '#'])
  let tail := (rest.drop 2).dropWhile (· ∉ ['/', '?', '#'])
  let host := (netloc.reverse.takeWhile (· ≠ '@')).reverse
  let user := netloc.take (netloc.length - host.length)
  let name := host.takeWhile (· ≠ ':')
  let port := (host.dropWhile (· ≠ ':')).drop 1
  (url.take 5).map lowerAscii = "http:".toList &&
    rest.take 2 = ['/', '/'] &&
    netloc.all (· ∉ ['[', ']']) &&
    user ∈ [[], ['@'], [':', '@']] &&
    String.ofList (name.map lowerAscii) ∈ ["127.0.0.1", "localhost"] &&
    !port.isEmpty && port.all Char.isDigit && Nat.ofDigitChars 10 port 0 ≤ 65535 &&
    tail ∈ [[], ['?'], ['#'], ['?', '#']]

/-- Python `validate_endpoint`. -/
def validateEndpoint : Json → Except PyError Unit
  | .str (.text endpoint) => lifted (refuseIf (!isLoopbackOrigin endpoint) message)
  | .str _ => lifted (refuseIf true message)
  -- The cache around `urlsplit` hashes what it is called with.
  | .arr _ => .error (.refused .type)
  | .obj _ => .error (.refused .type)
  -- Anything else that is not empty is taken for bytes.
  | value => if value.truthy then .error .attribute else lifted (refuseIf true message)
where
  message := "External endpoint must be an explicit loopback HTTP origin with port."

end Endpoint

section Flags

/-- Python `values.get(name)`. -/
def flagValue (values : List (Json × Json)) (name : String) : Json :=
  ((values.find? fun entry => pyEq (.str name) entry.1).map (·.2)).getD .null

/-- The flags that stand alone. -/
def loneFlags (chat : Bool) : List String :=
  ["--no-context-shift", "--no-cache-prompt"] ++ if chat then ["--jinja"] else []

/-- The flags from some place on, after those already read. -/
def readFlags (chat : Bool) : List (Json × Json) → List Json → Except Refusal (List (Json × Json))
  | values, [] => .ok values
  | values, name :: rest =>
    if !hashable name then .error .type
    else if values.any fun entry => bothNan name entry.1 || pyEq name entry.1 then
      .error (.value "Ambiguous quality server flags")
    else if (loneFlags chat).any fun lone => pyEq name (.str lone) then
      readFlags chat (values ++ [(name, .str "true")]) rest
    else
      match rest with
      | [] => .error (.value "Incomplete quality server flags")
      | value :: rest => readFlags chat (values ++ [(name, value)]) rest

/-- The launch flags as a mapping (the loop of Python `validate_runtime_execution`). -/
def flagValues (chat : Bool) : Json → Except Refusal (List (Json × Json))
  | .arr flags => readFlags chat [] flags
  | .str s => readFlags chat [] (s.chars.map .str)
  | .obj [] => .ok []
  | .obj _ => .error .key
  | _ => .error .type

/-- The flags that are set in advance. -/
def fixedFlags (context port : ℤ) (chat : Bool) : List (String × String) :=
  [("--host", "127.0.0.1"), ("--port", toString port), ("--ctx-size", toString context),
    ("--parallel", "1"), ("--threads", "4"), ("--seed", "0"), ("--no-context-shift", "true"),
    ("--no-cache-prompt", "true"), ("--verbosity", "4")] ++
    if chat then [("--jinja", "true"), ("--reasoning", "off")] else []

/-- Whether the flags are the fixed ones, and the placement flags if any. -/
def flagsAreFixed (values : List (Json × Json)) (fixed : List (String × String)) : Bool :=
  (fixed.all fun (name, value) => pyEq (flagValue values name) (.str value)) &&
    values.all fun entry =>
      (fixed.map (·.1) ++ ["--n-gpu-layers", "--device"]).any fun name => pyEq (.str name) entry.1

end Flags

/-- Python `QUALITY_RUNTIME_PROTOCOL`. -/
def qualityRuntimeProtocol : String :=
  "observable-runtime-v2"

/-- Python `EXTERNAL_PROTOCOL`. -/
def externalProtocol : String :=
  "ifeval-external-vulkan-v1"

/-- The part of Python `validate_runtime_execution` for a server that is no external one. -/
def validateObservableExecution (execution runtime : Json) (context port : ℤ) (chat : Bool) :
    Except Refusal Unit := do
  let unknown := "Unknown observable runtime contract"
  refuseIf (!(← execution.setIs ["protocol", "backend", "device", "version_text", "server_sha256",
    "fingerprint", "capability_sha256", "device_name"])) unknown
  refuseIf (!pyEq (← execution.field "protocol") (.str qualityRuntimeProtocol)) unknown
  let backend ← execution.field "backend"
  refuseIf (!(← isOneOf backend [.str "cpu", .str "cuda", .str "vulkan"]))
    "Unsupported quality execution backend"
  let mismatch := "Runtime hash/build/fingerprint identity mismatch"
  refuseIf (!pyEq (← execution.field "server_sha256") (← runtime.field "server_sha256")) mismatch
  refuseIf (!pyEq (← execution.field "fingerprint") (← runtime.field "fingerprint")) mismatch
  let fingerprint ← fingerprintFromVersion (← execution.field "version_text")
  refuseIf (!isTextOf fingerprint (← runtime.field "fingerprint")) mismatch
  refuseIf ((← execution.field "device_name").string?.all isBlank) mismatch
  let digests := "Runtime identity requires exact SHA256 digests"
  refuseIf (!(← matchesHex 64 (← execution.field "server_sha256"))) digests
  refuseIf (!(← matchesHex 64 (← execution.field "capability_sha256"))) digests
  let flags ← runtime.field "backend_flags"
  let values ← flagValues chat flags
  refuseIf (!flagsAreFixed values (fixedFlags context port chat))
    "Unsupported effective quality server configuration"
  let device ← execution.field "device"
  if pyEq backend (.str "cpu") then
    let placed := "CPU evaluation must use zero GPU layers and no GPU device"
    refuseIf (!pyEq device (.str "none")) placed
    refuseIf (← flags.holds "--device") placed
    refuseIf (!pyEq (flagValue values "--n-gpu-layers") (.str "0")) placed
  else
    let label := if pyEq backend (.str "cuda") then "CUDA" else "Vulkan"
    refuseIf (!device.string?.any (isDeviceOf label) || !pyEq (flagValue values "--device") device ||
        !pyEq (flagValue values "--n-gpu-layers") (.str "-1"))
      "GPU evaluation requires its confirmed device and full offload"

/-- Python `1 <= value <= 65535` of an integer. -/
def isPort : Json → Bool
  | .int n => 1 ≤ n && n ≤ 65535
  | _ => false

/-- The part of Python `validate_external_execution` behind the endpoint. -/
def validateExternalServer (execution external runtime : Json) : Except Refusal Unit := do
  let unsupported := "Unsupported external Windows Vulkan identity."
  refuseIf (!pyEq (← execution.field "protocol") (.str externalProtocol)) unsupported
  refuseIf (!pyEq (← execution.field "backend") (.str "vulkan")) unsupported
  refuseIf (!pyEq (← external.field "ownership") (.str "externally_supplied")) unsupported
  refuseIf (!pyEq (← external.field "host_os") (.str "windows")) unsupported
  let port ← external.field "port"
  refuseIf (!isPort port) unsupported
  refuseIf (!(← matchesHex 64 (← external.field "manifest_sha256"))) unsupported
  refuseIf ((← external.field "model_path").string?.all (· = .text "")) unsupported
  let base := .obj (dictSet ((execution.dict?.getD []).filter (·.1 ≠ .text "external_server"))
    "protocol" (.str qualityRuntimeProtocol))
  validateObservableExecution base runtime 4096 (port.index?.getD 0) true

/-- Python `validate_external_execution`. -/
def validateExternalExecution (execution runtime : Json) : Except PyError Unit := do
  let external := getField (← execution.entries) "external_server"
  let missing := "Missing external server identity."
  lifted (refuseIf external.dict?.isNone missing)
  let complete ← lifted (external.setIs ["ownership", "host_os", "endpoint", "manifest_sha256",
    "model_path", "port"])
  lifted (refuseIf (!complete) missing)
  validateEndpoint (← lifted (external.field "endpoint"))
  lifted (validateExternalServer execution external runtime)

/-- Python `validate_runtime_execution`. -/
def validateRuntimeExecution (execution runtime : Json) (context port : ℤ) (chat : Bool) :
    Except PyError Unit := do
  if pyEq (getField (← execution.entries) "protocol") (.str externalProtocol) then
    validateExternalExecution execution runtime
  else lifted (validateObservableExecution execution runtime context port chat)

example : isLoopbackOrigin "http://LocalHost:8080" = true ∧
    isLoopbackOrigin "http://localhost:8080/v1" = false := by
  decide +kernel

example : buildVersions "version: 0.1.0-dev (build 10427, commit 650913862)" =
    [(codesOf "10427", codesOf "650913862")] := by
  decide +kernel

end Jaull.Evaluation
