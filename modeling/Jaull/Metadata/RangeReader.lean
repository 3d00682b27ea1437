import Jaull.Metadata.GgufReader
import Jaull.Text.Numbers

/-!
# Range reader

Port of `jaull/metadata/range_reader.py`: ranges of a growing size are requested until the GGUF header
parses. A client may answer each call differently; the loop keeps the sizes it requested.
-/

namespace Jaull.Metadata
open Jaull.Domain Jaull.Lib Jaull.Text

/-- Python `INITIAL_HEADER_RANGE_BYTES`. -/
def initialHeaderRangeBytes : ℕ :=
  256 * 1024

/-- Python `RANGE_GROWTH_FACTOR`. -/
def rangeGrowthFactor : ℕ :=
  2

/-- Python `MAX_HEADER_DOWNLOAD_BYTES`. -/
def maxHeaderDownloadBytes : ℕ :=
  8 * (1024 * 1024)

/-- Python `HTTP_TIMEOUT_SECONDS`. -/
def httpTimeoutSeconds : ℚ :=
  10

/-- Python `RangeResponse`. -/
structure RangeResponse where
  body : List UInt8
  honoredRange : Bool
  statusCode : ℕ
  deriving DecidableEq, Repr

/-- What comes of `fetch_range`: a response, a `TimeoutError` or an `OSError`. -/
inductive Fetched
  | response (response : RangeResponse)
  | timeout
  | osError (text : String)
  deriving DecidableEq, Repr

/-- Python `HttpRangeClient`; `call` counts the calls made before. -/
structure HttpRangeClient where
  fetchRange (call : ℕ) (url : String) (start stop : ℕ) (timeout : ℚ) : Fetched

/-- Python `HeaderFetchResult`. -/
structure HeaderFetchResult where
  header : Option GgufHeaderMetadata
  bytesDownloaded : ℕ
  warnings : List String

/-- The variables of the loop of Python `fetch_gguf_header`, with the sizes requested so far. -/
structure FetchState where
  requested : ℕ := initialHeaderRangeBytes
  lastDownloaded : ℕ := 0
  warnings : List String := []
  requests : List ℕ := []

/-- What a turn of the loop does: it returns, or goes on. -/
inductive FetchStep
  | done (result : HeaderFetchResult) (requests : List ℕ)
  | again (state : FetchState)

/-- The end of the loop without a header. -/
def FetchState.giveUp (state : FetchState) (warning : String) : FetchStep :=
  .done ⟨none, state.lastDownloaded, state.warnings ++ [warning]⟩ state.requests

/-- The part of a turn that parses what was downloaded. -/
def FetchState.parse (state : FetchState) (response : RangeResponse) : FetchStep :=
  match parseHeader response.body with
  | .incomplete _ =>
    if response.honoredRange then
      .again { state with requested := state.requested * rangeGrowthFactor }
    else
      state.giveUp "Truncated buffer is too small and the server ignores Range; giving up."
  | .invalid error => state.giveUp ("Invalid GGUF header: " ++ error.text ++ ".")
  | .notGguf => state.giveUp "File does not start with a GGUF magic; skipping header read."
  | .header header =>
    .done
      { header := some header
        bytesDownloaded := state.lastDownloaded
        warnings := state.warnings ++
          if header.isComplete then []
          else ["GGUF header read up to its tokenizer; every key the memory estimate reads was " ++
            "present, the rest was not fetched."] }
      state.requests

/-- The part of a turn that looks at the response. -/
def FetchState.receive (state : FetchState) (response : RangeResponse) : FetchStep :=
  let state := { state with lastDownloaded := response.body.length }
  if response.statusCode = 416 then
    state.giveUp ("Server returned 416 for range " ++ toString state.requested ++
      "; file may be smaller.")
  else if response.statusCode ≠ 200 ∧ response.statusCode ≠ 206 then
    state.giveUp ("Unexpected HTTP status " ++ toString response.statusCode ++
      " while reading GGUF header.")
  else if response.honoredRange then state.parse response
  else
    { state with warnings := state.warnings ++
        ["Server ignored Range header; using truncated buffer to avoid a full download."]
      : FetchState }.parse response

/-- One turn of the loop. -/
def FetchState.turn (client : HttpRangeClient) (url : String) (state : FetchState) : FetchStep :=
  if state.requested ≤ maxHeaderDownloadBytes then
    let state' := { state with requests := state.requests ++ [state.requested] }
    match client.fetchRange state.requests.length url 0 (state.requested - 1)
        httpTimeoutSeconds with
    | .timeout =>
      state'.giveUp ("Timed out (" ++ formatFixed 1 httpTimeoutSeconds ++
        "s) fetching GGUF header from " ++ url ++ ".")
    | .osError text => state'.giveUp ("Network error fetching GGUF header: " ++ text ++ ".")
    | .response response => state'.receive response
  else
    state.giveUp ("GGUF header did not fit within the maximum download budget (" ++
      toString (maxHeaderDownloadBytes / (1024 * 1024)) ++ " MiB); giving up.")

/-- Python `fetch_gguf_header`, with the sizes it requested; `none` when `turns` turns were not
enough. -/
def fetchLoop (client : HttpRangeClient) (url : String) :
    ℕ → FetchState → Option (HeaderFetchResult × List ℕ)
  | 0, _ => none
  | turns + 1, state =>
    match state.turn client url with
    | .done result requests => some (result, requests)
    | .again state => fetchLoop client url turns state

/-- Python `fetch_gguf_header`. -/
def fetchGgufHeader (turns : ℕ) (url : String) (client : HttpRangeClient) :
    Option (HeaderFetchResult × List ℕ) :=
  fetchLoop client url turns {}

/-- `client` answers every request for a prefix of the file with that prefix. -/
def ServesPrefix (client : HttpRangeClient) (url : String) (file : List UInt8) : Prop :=
  ∀ call stop, ∃ status, (status = 200 ∨ status = 206) ∧
    client.fetchRange call url 0 stop httpTimeoutSeconds =
      .response ⟨file.take (stop + 1), true, status⟩

section Loop
variable {client : HttpRangeClient} {url : String}

/-- More turns change nothing. -/
lemma fetchLoop_mono {turns more : ℕ} {state : FetchState} {outcome}
    (run : fetchLoop client url turns state = some outcome) (le : turns ≤ more) :
    fetchLoop client url more state = some outcome := by
  induction turns generalizing state more with
  | zero => cases run
  | succ turns ih =>
    obtain ⟨more, rfl⟩ := Nat.exists_eq_add_one.mpr (Nat.zero_lt_of_lt le)
    rw [fetchLoop] at run ⊢
    cases step : state.turn client url with
    | done result requests =>
      rw [step] at run
      exact run
    | again next =>
      rw [step] at run
      exact ih run (Nat.le_of_succ_le_succ le)

/-- A turn returns with the requests of its state, or asks for twice as much. -/
def FetchState.Doubles (state : FetchState) (step : FetchStep) : Prop :=
  (∃ result, step = .done result state.requests) ∨
    ∃ next, step = .again next ∧ next.requested = state.requested * 2 ∧
      next.requests = state.requests

/-- Giving up asks for nothing more. -/
lemma giveUp_doubles (state : FetchState) (warning : String) :
    state.Doubles (state.giveUp warning) :=
  .inl ⟨_, rfl⟩

/-- Parsing what came at least doubles the next request. -/
lemma parse_doubles (state : FetchState) (response : RangeResponse) :
    state.Doubles (state.parse response) := by
  rw [FetchState.parse]
  cases parseHeader response.body with
  | incomplete text =>
    dsimp only
    split
    · exact .inr ⟨_, rfl, rfl, rfl⟩
    · exact giveUp_doubles _ _
  | invalid error => exact giveUp_doubles _ _
  | notGguf => exact giveUp_doubles _ _
  | header header => exact .inl ⟨_, rfl⟩

/-- So does receiving a response. -/
lemma receive_doubles (state : FetchState) (response : RangeResponse) :
    state.Doubles (state.receive response) := by
  rw [FetchState.receive]
  dsimp only
  split
  · exact .inl ⟨_, rfl⟩
  · split
    · exact .inl ⟨_, rfl⟩
    · split
      · exact parse_doubles _ response
      · exact parse_doubles _ response

/-- What a turn below the ceiling does: one request, then it returns or asks for twice as much. -/
lemma turn_doubles {state : FetchState} (le : state.requested ≤ maxHeaderDownloadBytes) :
    { state with requests := state.requests ++ [state.requested] : FetchState }.Doubles
      (state.turn client url) := by
  rw [FetchState.turn, if_pos le]
  dsimp only
  split
  · exact giveUp_doubles _ _
  · exact giveUp_doubles _ _
  · exact receive_doubles _ _

/-- The loop ends: `turns` doublings from the requested size are past the ceiling. -/
lemma fetchLoop_ends {left : ℕ} {state : FetchState}
    (size : state.requested * 2 ^ left = 2 * maxHeaderDownloadBytes) :
    ∃ result sizes, (∀ turns > left, fetchLoop client url turns state =
        some (result, state.requests ++ sizes)) ∧
      sizes.length ≤ left ∧ ∀ n ∈ sizes, n ≤ maxHeaderDownloadBytes := by
  induction left generalizing state with
  | zero =>
    -- the next request is beyond the ceiling, and is not made
    have above : ¬ state.requested ≤ maxHeaderDownloadBytes := by
      rw [pow_zero, mul_one] at size
      rw [size]
      decide
    obtain ⟨result, eq⟩ : ∃ result, state.turn client url = .done result state.requests := by
      rw [FetchState.turn, if_neg above]
      exact ⟨_, rfl⟩
    refine ⟨result, [], fun turns more => ?_, le_rfl, fun n mem => by cases mem⟩
    obtain ⟨turns, rfl⟩ := Nat.exists_eq_add_one.mpr more
    rw [fetchLoop, eq, List.append_nil]
  | succ left ih =>
    have half : state.requested * 2 ^ left = maxHeaderDownloadBytes := by
      rw [pow_succ, ← mul_assoc] at size
      omega
    have le : state.requested ≤ maxHeaderDownloadBytes := by
      rw [← half]
      exact Nat.le_mul_of_pos_right _ (Nat.two_pow_pos left)
    rcases @turn_doubles client url _ le with
      ⟨result, eq⟩ | ⟨next, eq, twice, requests⟩
    · refine ⟨result, [state.requested], fun turns more => ?_, by simp, ?_⟩
      · obtain ⟨turns, rfl⟩ := Nat.exists_eq_add_one.mpr (Nat.zero_lt_of_lt more)
        rw [fetchLoop, eq]
      · intro n mem
        rw [List.mem_singleton.mp mem]
        exact le
    · obtain ⟨result, sizes, run, len, below⟩ := @ih next (by rw [twice, ← half]; ring)
      refine ⟨result, state.requested :: sizes, fun turns more => ?_, by simpa using len, ?_⟩
      · obtain ⟨turns, rfl⟩ := Nat.exists_eq_add_one.mpr (Nat.zero_lt_of_lt more)
        rw [fetchLoop, eq]
        dsimp only
        rw [run turns (Nat.lt_of_succ_lt_succ more), requests]
        simp
      · intro n mem
        rcases List.mem_cons.mp mem with rfl | mem
        · exact le
        · exact below n mem

/-- What a turn makes of the prefix it is served: the header it parses, or a request for more. -/
lemma turn_served {file : List UInt8} {n : ℕ} {state : FetchState}
    (serves : ServesPrefix client url file) (len : metadataLength file = some n)
    (pos : 0 < state.requested) (le : state.requested ≤ maxHeaderDownloadBytes) :
    (∃ result requests header, state.turn client url = .done result requests ∧
        result.header = some header ∧
        (parseHeader file = .header header ∨ header.isComplete = false)) ∨
      state.requested < n ∧
        ∃ next, state.turn client url = .again next ∧ next.requested = state.requested * 2 := by
  obtain ⟨status, success, eq⟩ := serves state.requests.length (state.requested - 1)
  rw [Nat.sub_add_cancel pos] at eq
  have refused : status ≠ 416 := by
    rcases success with rfl | rfl <;> decide
  have accepted : ¬ (status ≠ 200 ∧ status ≠ 206) := by
    rcases success with rfl | rfl <;> decide
  rw [FetchState.turn, if_pos le, eq]
  dsimp only
  rw [FetchState.receive]
  dsimp only
  rw [if_neg refused, if_neg accepted, if_pos rfl, FetchState.parse]
  dsimp only
  -- what is decided on a part of the file is decided on all of it
  have again : (parseHeader (file.take state.requested)).decided = true →
      parseHeader file = parseHeader (file.take state.requested) := by
    intro decided
    have more := parseHeader_append decided (file.drop state.requested)
    rwa [List.take_append_drop] at more
  obtain ⟨header, parsed⟩ := exists_header_of_metadataLength len
  cases prefixed : parseHeader (file.take state.requested) with
  | header metadata =>
    refine .inl ⟨_, _, metadata, rfl, rfl, ?_⟩
    cases complete : metadata.isComplete with
    | false => exact .inr rfl
    | true =>
      rw [prefixed] at again
      exact .inl (again complete)
  | notGguf =>
    rw [prefixed, parsed] at again
    cases again rfl
  | invalid error =>
    rw [prefixed, parsed] at again
    cases again rfl
  | incomplete text =>
    refine .inr ⟨?_, _, rfl, rfl⟩
    by_contra ge
    -- behind the metadata nothing is missing any more
    have final := parseHeader_take len (Nat.le_of_not_lt ge)
    rw [prefixed, parsed] at final
    cases final

/-- The loop finds a metadata block below the ceiling, whole or up to its tokenizer. -/
lemma fetchLoop_served {file : List UInt8} {n left : ℕ} {state : FetchState}
    (serves : ServesPrefix client url file) (len : metadataLength file = some n)
    (fits : n ≤ maxHeaderDownloadBytes)
    (size : state.requested * 2 ^ left = maxHeaderDownloadBytes) :
    ∃ result requests header, fetchLoop client url (left + 1) state = some (result, requests) ∧
      result.header = some header ∧
      (parseHeader file = .header header ∨ header.isComplete = false) := by
  induction left generalizing state with
  | zero =>
    rw [pow_zero, mul_one] at size
    have pos : 0 < state.requested := by
      rw [size]
      decide
    rcases turn_served serves len pos (le_of_eq size) with
      ⟨result, requests, header, eq, found⟩ | ⟨short, _⟩
    · refine ⟨result, requests, header, ?_, found⟩
      rw [fetchLoop, eq]
    · rw [size] at short
      exact absurd fits (Nat.not_le_of_lt short)
  | succ left ih =>
    have le : state.requested ≤ maxHeaderDownloadBytes := by
      rw [← size]
      exact Nat.le_mul_of_pos_right _ (Nat.two_pow_pos _)
    have pos : 0 < state.requested := by
      by_contra zero
      rw [Nat.eq_zero_of_not_pos zero, zero_mul] at size
      exact absurd size (by decide)
    rcases turn_served serves len pos le with
      ⟨result, requests, header, eq, found⟩ | ⟨_, next, eq, twice⟩
    · refine ⟨result, requests, header, ?_, found⟩
      rw [fetchLoop, eq]
    · obtain ⟨result, requests, header, run, found⟩ :=
        @ih next (by rw [twice, ← size, pow_succ]; ring)
      refine ⟨result, requests, header, ?_, found⟩
      rw [fetchLoop, eq]
      exact run

end Loop

/-- What `parseHeader` decides on some bytes it decides on every continuation of them. So the loop ends
after at most six requests, none of them above the ceiling, and a client that serves the prefixes of a
file whose metadata block fits under the ceiling gets the header of the whole file or a partial one. -/
theorem fetchGgufHeader_spec :
    (∀ data more : List UInt8, (parseHeader data).decided = true →
      parseHeader (data ++ more) = parseHeader data) ∧
    ∀ url client, ∃ result requests,
      (∀ turns ≥ 7, fetchGgufHeader turns url client = some (result, requests)) ∧
      requests.length ≤ 6 ∧
      (∀ size ∈ requests, size ≤ maxHeaderDownloadBytes) ∧
      ∀ file n, ServesPrefix client url file → metadataLength file = some n →
        n ≤ maxHeaderDownloadBytes →
        ∃ header, result.header = some header ∧
          (parseHeader file = .header header ∨ header.isComplete = false) := by
  refine ⟨fun data more decided => parseHeader_append decided more, fun url client => ?_⟩
  obtain ⟨result, sizes, run, few, below⟩ :=
    @fetchLoop_ends client url 6 {} (by decide)
  refine ⟨result, sizes, run, few, below, fun file n serves len fits => ?_⟩
  obtain ⟨result', requests', header, run', found⟩ :=
    @fetchLoop_served client url file n 5 {} serves len fits (by decide)
  -- Both runs are the loop started from the initial state.
  have longer := run 7 (by decide)
  have same : fetchLoop client url 7 {} = some (result', requests') :=
    fetchLoop_mono run' (by decide)
  rw [longer] at same
  cases same
  exact ⟨header, found⟩

/-- A file with one entry. -/
def tinyFile : List UInt8 :=
  writeFile [writeTextEntry "general.architecture" "llama"]

/-- A client that serves the prefixes of `tinyFile`. -/
def tinyClient : HttpRangeClient where
  fetchRange _ _ _ stop _ := .response ⟨tinyFile.take (stop + 1), true, 206⟩

/-- A tiny file fetched in one range. -/
theorem fetchGgufHeader_spec_tiny :
    parseHeader (tinyFile ++ [0]) = parseHeader tinyFile ∧
      ∃ result requests header,
        fetchGgufHeader 7 "https://host/tiny.gguf" tinyClient = some (result, requests) ∧
        result.header = some header ∧
        (parseHeader tinyFile = .header header ∨ header.isComplete = false) := by
  refine ⟨fetchGgufHeader_spec.1 tinyFile [0] (by decide +kernel), ?_⟩
  obtain ⟨result, requests, run, _, _, served⟩ :=
    fetchGgufHeader_spec.2 "https://host/tiny.gguf" tinyClient
  obtain ⟨header, found⟩ := served tinyFile 69 (fun call stop => ⟨206, .inr rfl, rfl⟩)
    (by decide +kernel) (by decide)
  exact ⟨result, requests, header, run 7 (by decide), found⟩

end Jaull.Metadata
