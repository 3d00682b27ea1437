import Jaull.Domain.Records
import Jaull.Lib.Dict
import Jaull.Lib.ListMap
import Jaull.Runtime.DeviceEvidence
import Jaull.Text.Digits
import Jaull.Text.Tables

/-!
# The table of llama-bench

Port of `jaull/runtime/llama_bench_parser.py`: the measurements of the rows that stand behind the header of a table.
Everything else that llama-bench prints is passed over. A table that is laid out as llama-bench lays it out, with
whatever columns, is read back row by row.
-/

namespace Jaull.Runtime
open Jaull.Domain Jaull.Lib Jaull.Text Jaull.Text.Scanner

section Cells

/-- Python `_split_table_row`. -/
def splitTableRow (line : List Char) : Option (List (List Char)) :=
  let stripped := trim isSpace line
  if '|' ∈ stripped then
    let parts := ((trim (· = '|') stripped).splitOn '|').map (trim isSpace)
    if parts.length < 2 then none else some parts
  else none

/-- Python `_is_separator`. -/
def isSeparator (cells : List (List Char)) : Bool :=
  cells.all fun cell => (trim isSpace (cell.filter (· ≠ ':'))).all (· = '-')

/-- Python `re.sub(r"\s+", " ", text)`; `inRun` is set inside a run that has its blank. -/
def joinRuns : Bool → List Char → List Char
  | _, [] => []
  | inRun, c :: rest =>
    if isSpace c then
      if inRun then joinRuns true rest else ' ' :: joinRuns true rest
    else c :: joinRuns false rest

/-- Python `_normalize_header`. -/
def normalizeHeader (value : List Char) : List Char :=
  joinRuns false ((trim isSpace value).flatMap foldChar)

/-- The places of the columns by their names (Python `headers`). -/
abbrev Headers : Type :=
  List (List Char × ℕ)

/-- Python `{name: index for index, name in enumerate(normalized)}`. -/
def headersOf (normalized : List (List Char)) : Headers :=
  dictComprehension Prod.fst Prod.snd normalized.zipIdx []

/-- Python `_cell`. -/
def cellAt (cells : List (List Char)) (headers : Headers) (name : String) : Option (List Char) :=
  match headers.lookup name.toList with
  | none => none
  | some index =>
    match cells[index]? with
    | none => none
    | some cell => if trim isSpace cell = [] then none else some (trim isSpace cell)

end Cells

section Patterns

/-- The group `prefix` of Python `_TEST_RE`. -/
def testKind : Scanner BenchmarkMeasurementKind := fun text =>
  match literal sameLetter ['p', 'p'] text with
  | some (_, rest) => some (.prefill, rest)
  | none => (literal sameLetter ['t', 'g'] text).map fun read => (.generation, read.2)

/-- Python `_TEST_RE`, without its end. -/
def testLabel : Scanner (BenchmarkMeasurementKind × List Char) := do
  let kind ← testKind
  let tokens ← some1 isDigitChar
  pure (kind, tokens)

/-- Python `\d+(?:\.\d+)?`. -/
def decimalNumber : Scanner (List Char) := fun text =>
  match some1 isDigitChar text with
  | none => none
  | some (whole, behind) =>
    match (literal sameChar ['.'] behind).bind fun point => some1 isDigitChar point.2 with
    | some (decimals, stop) => some (whole ++ '.' :: decimals, stop)
    | none => some (whole, behind)

/-- The sign between the two figures, in either spelling. -/
def plusMinus : Scanner Unit := fun text =>
  match literal sameChar ['±'] text with
  | some read => some read
  | none => literal sameChar ['+', '/', '-'] text

/-- Python `_TPS_RE`, without its end. -/
def rateFigures : Scanner (List Char × List Char) := do
  let _ ← many isSpace
  let mean ← decimalNumber
  let _ ← many isSpace
  plusMinus
  let _ ← many isSpace
  let stddev ← decimalNumber
  let _ ← many isSpace
  pure (mean, stddev)

/-- A pattern that ends in `$`, of a text without white space at its end. -/
def wholeText {α : Type} (scanner : Scanner α) (text : List Char) : Option α :=
  match scanner text with
  | some (read, []) => some read
  | _ => none

end Patterns

section Parser

/-- Python `BenchmarkMeasurement`, with the texts of the row. -/
structure TableMeasurement extends BenchmarkMeasurement where
  sourceLabel : String
  rawBackend : Option String := none
  deriving DecidableEq, Repr

/-- What parsing a table raises. -/
inductive BenchTableError
  /-- Python `BenchmarkParseError`. -/
  | parse (message : String)
  | digits (error : TooManyDigits)
  | python (error : PyError)
  /-- Python `ValidationError`: the field that is refused first. -/
  | invalid (field : String)
  deriving DecidableEq, Repr

/-- The validator of a measurement. Python `float` of a text beyond the doubles is infinite, and the model refuses
what is not finite. -/
def validated (measurement : TableMeasurement) : Except BenchTableError TableMeasurement :=
  if measurement.tokens ≤ 0 then .error (.invalid "tokens")
  else if measurement.meanTokensPerSecond < 0 ∨ (overflowBound : ℚ) ≤ measurement.meanTokensPerSecond then
    .error (.invalid "mean_tokens_per_second")
  else if measurement.stddevTokensPerSecond < 0 ∨ (overflowBound : ℚ) ≤ measurement.stddevTokensPerSecond then
    .error (.invalid "stddev_tokens_per_second")
  else if measurement.repetitions.any (· < 1) then .error (.invalid "repetitions")
  else .ok measurement

variable (repr : String → String) (repetitions : Option ℤ)

/-- The measurement of a test and its figures. -/
def measurementOf (cells : List (List Char)) (headers : Headers) (test : List Char)
    (label : BenchmarkMeasurementKind × List Char) (figures : List Char × List Char) :
    Except BenchTableError TableMeasurement := do
  let tokens ← (parseInt label.2).mapError BenchTableError.digits
  let mean ← (floatText figures.1).mapError BenchTableError.python
  let stddev ← (floatText figures.2).mapError BenchTableError.python
  validated
    { kind := label.1
      tokens := tokens
      meanTokensPerSecond := mean
      stddevTokensPerSecond := stddev
      repetitions := repetitions
      sourceLabel := String.ofList (trim isSpace test)
      rawBackend := (cellAt cells headers "backend").map String.ofList
      rawDevice := (cellAt cells headers "dev").map String.ofList
      rawNgl := (cellAt cells headers "ngl").map String.ofList }

/-- Python `_parse_measurement_row`. -/
def parseMeasurementRow (cells : List (List Char)) (headers : Headers) :
    Except BenchTableError (Option TableMeasurement) :=
  match cellAt cells headers "test" with
  | none => .ok none
  | some test =>
    match wholeText testLabel (trim isSpace test) with
    | none => .ok none
    | some label =>
      match cellAt cells headers "t/s" with
      | none => .error (.parse ("llama-bench row " ++ repr (String.ofList test) ++ " has no t/s value."))
      | some rate =>
        match wholeText rateFigures rate with
        | none =>
          .error (.parse ("Could not parse llama-bench t/s value for " ++ repr (String.ofList test) ++ ": " ++
            repr (String.ofList rate) ++ "."))
        | some figures => (measurementOf repetitions cells headers test label figures).map some

/-- How far a table is read. -/
structure TableState where
  headers : Option Headers := none
  measurements : List TableMeasurement := []

/-- One line of the output. -/
def tableLine (state : TableState) (line : List Char) : Except BenchTableError TableState :=
  match splitTableRow line with
  | none => .ok state
  | some cells =>
    if isSeparator cells then .ok state
    else
      let normalized := cells.map normalizeHeader
      if normalized.contains "test".toList && normalized.contains "t/s".toList then
        .ok { state with headers := some (headersOf normalized) }
      else
        match state.headers with
        | none => .ok state
        | some headers =>
          (parseMeasurementRow repr repetitions cells headers).map fun measurement =>
            { state with measurements := state.measurements ++ measurement.toList }

/-- Python `parse_llama_bench_output`. A row that is counted is a measurement, so the second of its two checks finds
nothing. -/
def parseLlamaBenchOutput (output : String) : Except BenchTableError (List TableMeasurement) := do
  let state ← (splitLines output).foldlM (tableLine repr repetitions) {}
  if state.measurements = [] then .error (.parse "No llama-bench pp/tg measurements were found.")
  else .ok state.measurements

end Parser

section Layout
variable {pad : List Char → List Char → ℕ × ℕ} {titles : List (List Char)} {text : List Char → List Char}

/-- A row that is laid out is split into its cells. -/
lemma splitTableRow_rowLine (two : 2 ≤ titles.length) (clean : ∀ title ∈ titles, CellText (text title)) :
    splitTableRow (rowLine pad titles text) = some (titles.map text) := by
  let cell (title : List Char) : List Char := laid (pad title (text title)) (text title)
  have someTitle : titles.map cell ≠ [] := by
    intro none
    rw [List.map_eq_nil_iff.mp none] at two
    exact absurd two (by decide)
  have filled : ∀ other ∈ titles.map cell, other ≠ [] ∧ '|' ∉ other := by
    intro other mem
    obtain ⟨title, own, rfl⟩ := List.mem_map.mp mem
    constructor
    · exact List.cons_ne_nil _ _
    · intro bar
      rcases mem_laid bar with eq | inside
      · exact absurd eq (by decide)
      · exact (clean title own).plain inside
  have row : rowLine pad titles text = ['|'] ++ ['|'].intercalate (titles.map cell) ++ ['|'] := by
    rw [List.append_assoc, ← flatMap_bar _ someTitle, List.flatMap_map]
    rfl
  -- the row begins and ends with a bar
  have whole : trim isSpace (rowLine pad titles text) = rowLine pad titles text := by
    apply trim_of_trimmed
    rw [row]
    constructor
    · rfl
    · rw [List.getLast?_concat]
      rfl
  -- the outer bars go, and those between the cells divide it
  have bars : trim (· = '|') (rowLine pad titles text) = ['|'].intercalate (titles.map cell) := by
    rw [row]
    apply trim_around _ (trimmed_intercalate filled)
    · intro c mem
      exact decide_eq_true (List.mem_singleton.mp mem)
    · intro c mem
      exact decide_eq_true (List.mem_singleton.mp mem)
  have cells : (titles.map cell).map (trim isSpace) = titles.map text := by
    rw [List.map_map]
    apply List.map_congr_left
    intro title own
    exact trim_laid (clean title own)
  have many : ¬(titles.map text).length < 2 := by
    rw [List.length_map]
    exact Nat.not_lt.mpr two
  have bar : '|' ∈ rowLine pad titles text := List.mem_cons_self
  rw [splitTableRow, whole, if_pos bar, bars,
    List.splitOn_intercalate _ (fun other mem => (filled other mem).2) someTitle, cells]
  dsimp only
  rw [if_neg many]

end Layout

section Places
variable {titles : List (List Char)} {text : List Char → List Char} {name : String}

/-- What stands under the last title of a name, if anything does. -/
def underTitle (titles : List (List Char)) (text : List Char → List Char) (name : String) : Option (List Char) :=
  ((titles.reverse.find? fun title => normalizeHeader title = name.toList).map text).filter (· ≠ [])

/-- A header names one of the columns. -/
lemma lookup_headersOf_lt {names : List (List Char)} {key : List Char} {index : ℕ}
    (found : (headersOf names).lookup key = some index) : index < names.length := by
  rcases lookup_dictComprehension found with none | ⟨entry, mem, -, rfl⟩
  · cases none
  · rw [List.mem_zipIdx_iff_getElem?] at mem
    exact (List.getElem?_eq_some_iff.mp mem).1

/-- The place of a title is that of the last column with its name. -/
lemma getElem?_headersOf :
    ((headersOf (titles.map normalizeHeader)).lookup name.toList).bind ((titles.map text)[·]?) =
      (titles.reverse.find? fun title => normalizeHeader title = name.toList).map text := by
  induction titles using List.reverseRecOn with
  | nil => rfl
  | append_singleton titles title ih =>
    have grown : headersOf ((titles ++ [title]).map normalizeHeader) =
        dictSet (headersOf (titles.map normalizeHeader)) (normalizeHeader title) titles.length := by
      rw [List.map_append, headersOf, dictComprehension, List.zipIdx_append, List.foldl_append, List.length_map,
        Nat.zero_add]
      rfl
    rw [grown, List.reverse_append, List.reverse_singleton, List.singleton_append, List.map_append]
    rw [List.find?_cons]
    by_cases same : normalizeHeader title = name.toList
    · rw [decide_eq_true same, same, lookup_dictSet_self, Option.bind_some,
        List.getElem?_append_right (Nat.le_of_eq (List.length_map _)), List.length_map, Nat.sub_self]
      rfl
    · rw [decide_eq_false same, lookup_dictSet_ne (Ne.symm same), ← ih]
      cases found : (headersOf (titles.map normalizeHeader)).lookup name.toList with
      | none => rfl
      | some index =>
        have inside := lookup_headersOf_lt found
        rw [Option.bind_some, Option.bind_some, List.getElem?_append_left]
        rw [List.length_map] at inside ⊢
        exact inside

/-- The cell of a column is what was written under its title. -/
lemma cellAt_headersOf (clean : ∀ title ∈ titles, CellText (text title)) :
    cellAt (titles.map text) (headersOf (titles.map normalizeHeader)) name = underTitle titles text name := by
  have place := @getElem?_headersOf titles text name
  rw [cellAt, underTitle, ← place]
  cases (headersOf (titles.map normalizeHeader)).lookup name.toList with
  | none => rfl
  | some index =>
    rw [Option.bind_some]
    dsimp only
    cases found : (titles.map text)[index]? with
    | none => rfl
    | some cell =>
      obtain ⟨title, own, rfl⟩ := List.mem_map.mp (List.mem_of_getElem? found)
      dsimp only
      rw [trim_of_trimmed (clean title own).trimmed, Option.filter_some]
      by_cases empty : text title = []
      · rw [if_pos empty, if_neg (by rw [decide_eq_true_eq]; exact not_not_intro empty)]
      · rw [if_neg empty, if_pos (decide_eq_true empty)]

end Places

section Figures
variable {digits decimals rest : List Char} {p : Char → Bool} {q : ℚ}

/-- An ASCII digit is a decimal digit, with its own value. -/
lemma digit_value {c : Char} (digit : c.isDigit = true) : isDigitChar c = true ∧ digitValue c = c.toNat - 48 := by
  have all : ∀ k < 10, isDigitCode (k + 48) = true ∧
      ((digitRanges.find? fun range => range.1 ≤ k + 48 && k + 48 ≤ range.2).map fun range =>
        (k + 48 - range.1) % 10).getD 0 = k := by
    decide +kernel
  have code : 48 ≤ c.toNat ∧ c.toNat ≤ 57 := Char.isDigit_iff_toNat.mp digit
  have own := all (c.toNat - 48) (by omega)
  rw [Nat.sub_add_cancel code.1] at own
  exact own

/-- A digit is no blank, no bar, no point, and ends no line. -/
lemma digit_plain {c : Char} (digit : c.isDigit = true) :
    isSpace c = false ∧ isLineBreak c = false ∧ c ≠ '|' ∧ c ≠ '.' := by
  have code : 48 ≤ c.toNat ∧ c.toNat ≤ 57 := Char.isDigit_iff_toNat.mp digit
  refine ⟨?_, ?_, ?_, ?_⟩
  · simp only [isSpace, Bool.or_eq_false_iff, Bool.and_eq_false_iff, decide_eq_false_iff_not, beq_eq_false_iff_ne]
    omega
  · simp only [isLineBreak, Bool.or_eq_false_iff, Bool.and_eq_false_iff, decide_eq_false_iff_not,
      beq_eq_false_iff_ne]
    omega
  · rintro rfl
    cases digit
  · rintro rfl
    cases digit

/-- The value of digits as the library reads them. -/
lemma decimalValue_eq (all : AllDigits digits) : decimalValue digits = Nat.ofDigitChars 10 digits 0 := by
  rw [decimalValue, Nat.ofDigitChars_eq_foldl]
  apply List.foldl_ext
  intro n c mem
  rw [(digit_value (all c mem)).2]
  rfl

/-- Digits are digits of Python's `\d`. -/
lemma all_isDigitChar (all : AllDigits digits) : ∀ c ∈ digits, isDigitChar c = true :=
  fun c mem => (digit_value (all c mem)).1

/-- A run that ends where the class does is read whole. -/
lemma some1_append {run : List Char} (ne : run ≠ []) (all : ∀ c ∈ run, p c = true) (ends : rest.head?.any p = false) :
    some1 p (run ++ rest) = some (run, rest) := by
  rw [some1, List.takeWhile_append_of_pos all, List.dropWhile_append_of_pos all, dropWhile_of_head ends]
  have nothing : rest.takeWhile p = [] := by
    cases rest with
    | nil => rfl
    | cons c rest => exact List.takeWhile_cons_of_neg (Bool.eq_false_iff.mp ends)
  rw [nothing, List.append_nil]
  cases run with
  | nil => exact absurd rfl ne
  | cons => rfl

/-- The digits before and behind the point of C `%.2f`. -/
structure TwoPlaces (text digits decimals : List Char) : Prop where
  text_eq : text = digits ++ '.' :: decimals
  ne_nil : digits ≠ []
  whole : AllDigits digits
  places : AllDigits decimals
  two : decimals.length = 2

/-- C `%.2f` of a number that is not negative. -/
def figureText (q : ℚ) : List Char :=
  (formatFixed 2 q).toList

/-- What is read where a number was printed with two decimals. -/
def printedFigure (q : ℚ) : ℚ :=
  boundedDouble (roundHalfEven (q * 10 ^ 2) / 10 ^ 2)

/-- The text of a number is its digits. -/
lemma toList_natText (n : ℕ) : (toString n).toList = Nat.toDigits 10 n := by
  rw [Nat.toString_eq_repr, Nat.toList_repr]

/-- A number below a hundred is padded to two digits and keeps its value. -/
lemma zfill_two {n : ℕ} (small : n < 100) :
    (zfill 2 (toString n)).toList.length = 2 ∧ AllDigits (zfill 2 (toString n)).toList ∧
      Nat.ofDigitChars 10 (zfill 2 (toString n)).toList 0 = n := by
  have text : (zfill 2 (toString n)).toList =
      List.replicate (2 - (Nat.toDigits 10 n).length) '0' ++ Nat.toDigits 10 n := by
    rw [zfill, String.toList_append, String.toList_ofList, ← String.length_toList, toList_natText]
  have short : (Nat.toDigits 10 n).length ≤ 2 := (Nat.length_toDigits_le_iff (by decide) (by decide)).mpr small
  rw [text]
  refine ⟨?_, ?_, ?_⟩
  · rw [List.length_append, List.length_replicate]
    omega
  · exact (allDigits_zeros _).append (allDigits_toDigits n)
  · rw [ofDigitChars_zeros_append, Nat.ofDigitChars_ten_toDigits]

/-- Rounding keeps signs. -/
lemma roundHalfEven_nonneg (nonneg : 0 ≤ q) : 0 ≤ roundHalfEven q := by
  have below : 0 ≤ ⌊q⌋ := Int.floor_nonneg.mpr nonneg
  rw [roundHalfEven]
  split_ifs
  · exact below
  · omega
  · exact below
  · omega

/-- So does printing. -/
lemma printedFigure_nonneg (nonneg : 0 ≤ q) : 0 ≤ printedFigure q := by
  have rounded : (0 : ℚ) ≤ roundHalfEven (q * 10 ^ 2) :=
    Int.cast_nonneg (roundHalfEven_nonneg (mul_nonneg nonneg (by decide)))
  rw [printedFigure, boundedDouble]
  split_ifs
  · exact Nat.cast_nonneg _
  · exact nearestDouble_nonneg (div_nonneg rounded (by decide))

/-- A figure is printed with two places, and reads as the rounded figure. -/
lemma figureText_places (nonneg : 0 ≤ q) :
    ∃ digits decimals, TwoPlaces (figureText q) digits decimals ∧
      (decimalValue (digits ++ decimals) : ℚ) = roundHalfEven (q * 10 ^ 2) := by
  let scaled : ℤ := roundHalfEven (q * 10 ^ 2)
  have small : scaled.natAbs % 10 ^ 2 < 100 := Nat.mod_lt _ (by decide)
  obtain ⟨two, places, value⟩ := zfill_two small
  have text : figureText q = Nat.toDigits 10 (scaled.natAbs / 10 ^ 2) ++
      '.' :: (zfill 2 (toString (scaled.natAbs % 10 ^ 2))).toList := by
    rw [figureText, formatFixed, if_neg (not_lt.mpr nonneg), if_neg (by decide)]
    rw [String.toList_append, String.toList_append, String.toList_append, toList_natText]
    rfl
  refine ⟨_, _, ⟨text, Nat.toDigits_ne_nil, allDigits_toDigits _, places, two⟩, ?_⟩
  have whole : Nat.ofDigitChars 10 (Nat.toDigits 10 (scaled.natAbs / 10 ^ 2) ++
      (zfill 2 (toString (scaled.natAbs % 10 ^ 2))).toList) 0 = scaled.natAbs := by
    rw [Nat.ofDigitChars_append, Nat.ofDigitChars_ten_toDigits, Nat.ofDigitChars_eq_ofDigitChars_zero, two, value]
    exact Nat.div_add_mod _ _
  have sign : (scaled.natAbs : ℤ) = scaled :=
    Int.natAbs_of_nonneg (roundHalfEven_nonneg (mul_nonneg nonneg (by decide)))
  rw [decimalValue_eq ((allDigits_toDigits _).append places), whole]
  rw [← Int.cast_natCast, sign]

/-- A number that was printed with two decimals is read as one. -/
lemma floatText_figureText (nonneg : 0 ≤ q) : floatText (figureText q) = .ok (printedFigure q) := by
  obtain ⟨digits, decimals, places, value⟩ := figureText_places nonneg
  have noPoint : ∀ {l : List Char}, AllDigits l → ∀ c ∈ l, c ≠ '.' := fun all c mem => (digit_plain (all c mem)).2.2.2
  have kept : ∀ {l : List Char}, AllDigits l → l.filter isDigitChar = l :=
    fun all => List.filter_eq_self.mpr (all_isDigitChar all)
  have count : ∀ {l : List Char}, AllDigits l → l.count '.' = 0 :=
    fun all => List.count_eq_zero.mpr fun mem => noPoint all '.' mem rfl
  have reads : isFloatText (figureText q) = true := by
    rw [isFloatText, places.text_eq, Bool.and_eq_true, decide_eq_true_eq, List.count_append, List.count_cons_self,
      count places.whole, count places.places]
    constructor
    · cases some' : digits with
      | nil => exact absurd some' places.ne_nil
      | cons c l =>
        rw [List.cons_append, List.any_cons, all_isDigitChar places.whole c (by rw [some']; exact List.mem_cons_self)]
        rfl
    · decide
  rw [floatText, if_pos reads, places.text_eq, dropWhile_split (noPoint places.whole), List.filter_append,
    List.filter_cons_of_neg (by decide), kept places.whole, kept places.places, value]
  dsimp only
  rw [List.length_cons, places.two, printedFigure]

/-- A printed figure is read back, up to what follows it. -/
lemma decimalNumber_figureText (nonneg : 0 ≤ q) (ends : rest.head?.any isDigitChar = false) :
    decimalNumber (figureText q ++ rest) = some (figureText q, rest) := by
  obtain ⟨digits, decimals, places, -⟩ := figureText_places nonneg
  have some' : decimals ≠ [] := by
    intro none
    have two := places.two
    rw [none] at two
    cases two
  have whole : some1 isDigitChar (digits ++ '.' :: (decimals ++ rest)) = some (digits, '.' :: (decimals ++ rest)) :=
    some1_append places.ne_nil (all_isDigitChar places.whole) (show isDigitChar '.' = false by decide)
  have second : ((literal sameChar ['.'] ('.' :: (decimals ++ rest))).bind fun point => some1 isDigitChar point.2) =
      some (decimals, rest) :=
    some1_append some' (all_isDigitChar places.places) ends
  rw [places.text_eq, List.append_assoc, List.cons_append, decimalNumber, whole]
  dsimp only
  rw [second]

/-- The characters of a printed number. -/
lemma figureText_mem (nonneg : 0 ≤ q) {c : Char} (mem : c ∈ figureText q) : c.isDigit = true ∨ c = '.' := by
  obtain ⟨digits, decimals, places, -⟩ := figureText_places nonneg
  rw [places.text_eq, List.mem_append, List.mem_cons] at mem
  rcases mem with whole | point | place
  · exact .inl (places.whole c whole)
  · exact .inr point
  · exact .inl (places.places c place)

/-- It begins with a digit. -/
lemma figureText_head (nonneg : 0 ≤ q) : ∃ c rest, figureText q = c :: rest ∧ c.isDigit = true := by
  obtain ⟨digits, decimals, places, -⟩ := figureText_places nonneg
  cases first : digits with
  | nil => exact absurd first places.ne_nil
  | cons c rest =>
    refine ⟨c, rest ++ '.' :: decimals, ?_, places.whole c (by rw [first]; exact List.mem_cons_self)⟩
    rw [places.text_eq, first]
    rfl

end Figures

section Rows

/-- What a row tests: one size, or a prompt and a generation together. -/
inductive BenchTest
  | single (kind : BenchmarkMeasurementKind) (tokens : ℕ)
  | combined (prompt generated : ℕ)
  deriving DecidableEq, Repr

/-- The mark of a kind in a test's label. -/
def kindMark : BenchmarkMeasurementKind → List Char
  | .prefill => ['p', 'p']
  | .generation => ['t', 'g']

/-- The label of a test. -/
def BenchTest.text : BenchTest → List Char
  | .single kind tokens => kindMark kind ++ Nat.toDigits 10 tokens
  | .combined prompt generated =>
    kindMark .prefill ++ (Nat.toDigits 10 prompt ++ '+' :: (kindMark .generation ++ Nat.toDigits 10 generated))

/-- What a row states: a test, its figures, and a text under every other title. -/
structure BenchRow where
  test : BenchTest
  mean : ℚ
  stddev : ℚ
  field : List Char → List Char

/-- The figures of a row. -/
def BenchRow.rate (row : BenchRow) : List Char :=
  figureText row.mean ++ [' ', '±', ' '] ++ figureText row.stddev

/-- The text of a row under a title. -/
def BenchRow.cell (row : BenchRow) (title : List Char) : List Char :=
  if normalizeHeader title = "test".toList then row.test.text
  else if normalizeHeader title = "t/s".toList then row.rate
  else row.field title

/-- A row that can be printed in a table with these titles: its numbers are read as finite ones, and none of its other
texts reads as a title of the figures. -/
structure BenchRow.Printable (titles : List (List Char)) (row : BenchRow) : Prop where
  mean_nonneg : 0 ≤ row.mean
  stddev_nonneg : 0 ≤ row.stddev
  mean_lt : printedFigure row.mean < overflowBound
  stddev_lt : printedFigure row.stddev < overflowBound
  tokens : ∀ kind tokens, row.test = .single kind tokens →
    0 < tokens ∧ (Nat.toDigits 10 tokens).length ≤ maxIntDigits
  field_text : ∀ title ∈ titles, CellText (row.field title)
  field_name : ∀ title ∈ titles, normalizeHeader (row.field title) ≠ "t/s".toList

/-- The measurement of a row; a combined test has none. -/
def BenchRow.measured (titles : List (List Char)) (repetitions : Option ℤ) (row : BenchRow) :
    Option TableMeasurement :=
  match row.test with
  | .combined _ _ => none
  | .single kind tokens =>
    some
      { kind := kind
        tokens := tokens
        meanTokensPerSecond := printedFigure row.mean
        stddevTokensPerSecond := printedFigure row.stddev
        repetitions := repetitions
        sourceLabel := String.ofList row.test.text
        rawBackend := (underTitle titles row.cell "backend").map String.ofList
        rawDevice := (underTitle titles row.cell "dev").map String.ofList
        rawNgl := (underTitle titles row.cell "ngl").map String.ofList }

variable {titles : List (List Char)} {row : BenchRow} {test : BenchTest}

/-- A character that neither ends a cell nor a line and is no blank. -/
def isCellChar (c : Char) : Bool :=
  c ≠ '|' && !isLineBreak c && !isSpace c

/-- The characters of a cell. -/
lemma isCellChar_eq_true {c : Char} :
    isCellChar c = true ↔ c ≠ '|' ∧ isLineBreak c = false ∧ isSpace c = false := by
  rw [isCellChar, Bool.and_eq_true, Bool.and_eq_true, decide_eq_true_eq, Bool.not_eq_true', Bool.not_eq_true',
    and_assoc]

/-- A digit may stand in a cell. -/
lemma isCellChar_digit {c : Char} (digit : c.isDigit = true) : isCellChar c = true := by
  obtain ⟨space, line, bar, -⟩ := digit_plain digit
  exact isCellChar_eq_true.mpr ⟨bar, line, space⟩

/-- A text of such characters is the text of a cell. -/
lemma cellText_of_all {text : List Char} (all : text.all isCellChar = true) : CellText text := by
  have each : ∀ c ∈ text, c ≠ '|' ∧ isLineBreak c = false ∧ isSpace c = false :=
    fun c mem => isCellChar_eq_true.mp (List.all_eq_true.mp all c mem)
  exact ⟨fun mem => (each _ mem).1 rfl, fun c mem => (each c mem).2.1,
    trimmed_of_forall fun c mem => (each c mem).2.2⟩

/-- The name of a test may stand in a cell. -/
lemma BenchTest.all_text (test : BenchTest) : test.text.all isCellChar = true := by
  have digits : ∀ n, (Nat.toDigits 10 n).all isCellChar = true :=
    fun n => List.all_eq_true.mpr fun c mem => isCellChar_digit (allDigits_toDigits n c mem)
  have marks : ∀ kind, (kindMark kind).all isCellChar = true := by
    intro kind
    cases kind with
    | prefill => rfl
    | generation => rfl
  cases test with
  | single kind tokens =>
    rw [BenchTest.text, List.all_append, marks, digits]
    rfl
  | combined prompt generated =>
    rw [BenchTest.text, List.all_append, marks, List.all_append, digits, List.all_cons, List.all_append, marks, digits]
    rfl

/-- So may a printed figure. -/
lemma all_figureText {q : ℚ} (nonneg : 0 ≤ q) : (figureText q).all isCellChar = true := by
  apply List.all_eq_true.mpr
  intro c mem
  rcases figureText_mem nonneg mem with digit | rfl
  · exact isCellChar_digit digit
  · rfl

/-- It is not empty. -/
lemma figureText_ne_nil {q : ℚ} (nonneg : 0 ≤ q) : figureText q ≠ [] := by
  obtain ⟨c, rest, text, -⟩ := figureText_head nonneg
  rw [text]
  exact List.cons_ne_nil _ _

/-- So may the rate of a row. -/
lemma BenchRow.cellText_rate (mean : 0 ≤ row.mean) (stddev : 0 ≤ row.stddev) : CellText row.rate := by
  have front := cellText_of_all (all_figureText mean)
  have back := cellText_of_all (all_figureText stddev)
  refine ⟨?_, ?_, trimmed_append (figureText_ne_nil mean) (figureText_ne_nil stddev) front.trimmed back.trimmed⟩
  · rw [BenchRow.rate, List.mem_append, List.mem_append, not_or, not_or]
    exact ⟨⟨front.plain, by decide⟩, back.plain⟩
  · intro c mem
    rw [BenchRow.rate, List.mem_append, List.mem_append] at mem
    have sign : [' ', '±', ' '].all (!isLineBreak ·) = true := rfl
    rcases mem with (own | own) | own
    · exact front.unbroken c own
    · exact (Bool.not_eq_true' _).mp (List.all_eq_true.mp sign c own)
    · exact back.unbroken c own

/-- Every text of a printable row can stand in a cell. -/
lemma BenchRow.Printable.cellText (printable : row.Printable titles) : ∀ title ∈ titles, CellText (row.cell title) := by
  intro title own
  rw [BenchRow.cell]
  split_ifs
  · exact cellText_of_all row.test.all_text
  · exact BenchRow.cellText_rate printable.mean_nonneg printable.stddev_nonneg
  · exact printable.field_text title own

end Rows

section Reading
variable {titles : List (List Char)} {row : BenchRow} {name : String} {stop : List Char}

/-- A scanner that reads goes on with what it read. -/
lemma bind_scanner {α β : Type} {scanner : Scanner α} {next : α → Scanner β} {text : List Char} {a : α}
    (read : scanner text = some (a, stop)) : (scanner >>= next) text = next a stop := by
  change (scanner text).bind (fun found => next found.1 found.2) = next a stop
  rw [read]
  rfl

/-- The mark of a kind is read as the kind. -/
lemma kind_read (kind : BenchmarkMeasurementKind) (rest : List Char) :
    testKind (kindMark kind ++ rest) = some (kind, rest) := by
  cases kind with
  | prefill => rfl
  | generation => rfl

/-- The label of a single test is read as its kind and its size; a combined test is no test of the parser's. -/
lemma testLabel_read (test : BenchTest) :
    wholeText testLabel test.text =
      match test with
      | .single kind tokens => some (kind, Nat.toDigits 10 tokens)
      | .combined _ _ => none := by
  have run : ∀ {n : ℕ} {rest : List Char}, rest.head?.any isDigitChar = false →
      some1 isDigitChar (Nat.toDigits 10 n ++ rest) = some (Nat.toDigits 10 n, rest) :=
    fun ends => some1_append Nat.toDigits_ne_nil (all_isDigitChar (allDigits_toDigits _)) ends
  cases test with
  | single kind tokens =>
    have digits := @run tokens [] rfl
    rw [List.append_nil] at digits
    rw [wholeText, BenchTest.text, testLabel, bind_scanner (kind_read kind _), bind_scanner digits]
    rfl
  | combined prompt generated =>
    have digits := @run prompt ('+' :: (kindMark .generation ++ Nat.toDigits 10 generated))
      (show isDigitChar '+' = false by decide)
    rw [wholeText, BenchTest.text, testLabel, bind_scanner (kind_read _ _), bind_scanner digits]
    rfl

/-- Where no such character stands, none are read. -/
lemma many_none {p : Char → Bool} {text : List Char} (ends : text.head?.any p = false) :
    many p text = some ([], text) := by
  rw [many, dropWhile_of_head ends]
  cases text with
  | nil => rfl
  | cons c rest =>
    have out : p c = false := ends
    rw [List.takeWhile_cons_of_neg (Bool.eq_false_iff.mp out)]

/-- The figures of a row are read as they were printed. -/
lemma rateFigures_read (mean : 0 ≤ row.mean) (stddev : 0 ≤ row.stddev) :
    wholeText rateFigures row.rate = some (figureText row.mean, figureText row.stddev) := by
  obtain ⟨c, front, first, digit⟩ := figureText_head mean
  obtain ⟨d, back, second, digit'⟩ := figureText_head stddev
  have start : many isSpace row.rate = some ([], row.rate) := by
    apply many_none
    rw [BenchRow.rate, first]
    exact (digit_plain digit).1
  have mean' : decimalNumber row.rate = some (figureText row.mean, ' ' :: '±' :: ' ' :: figureText row.stddev) := by
    rw [BenchRow.rate, List.append_assoc]
    exact decimalNumber_figureText mean (show isDigitChar ' ' = false by decide)
  have blank : many isSpace (' ' :: '±' :: ' ' :: figureText row.stddev) =
      some ([' '], '±' :: ' ' :: figureText row.stddev) := rfl
  have sign : plusMinus ('±' :: ' ' :: figureText row.stddev) = some ((), ' ' :: figureText row.stddev) := rfl
  have blank' : many isSpace (' ' :: figureText row.stddev) = some ([' '], figureText row.stddev) := by
    have stays : (figureText row.stddev).head?.any isSpace = false := by
      rw [second]
      exact (digit_plain digit').1
    have none := many_none stays
    rw [many] at none ⊢
    obtain ⟨taken, left⟩ := Prod.mk.inj (Option.some.inj none)
    rw [List.takeWhile_cons_of_pos rfl, List.dropWhile_cons_of_pos rfl, taken, left]
  have stddev' : decimalNumber (figureText row.stddev) = some (figureText row.stddev, []) := by
    have whole := @decimalNumber_figureText [] row.stddev stddev rfl
    rwa [List.append_nil] at whole
  have done : many isSpace [] = some ([], []) := rfl
  rw [wholeText, rateFigures, bind_scanner start, bind_scanner mean', bind_scanner blank, bind_scanner sign,
    bind_scanner blank', bind_scanner stddev', bind_scanner done]
  rfl

end Reading

section Written
variable {pad : List Char → List Char → ℕ × ℕ} {titles before : List (List Char)} {rule : List Char → List Char}
variable {row : BenchRow} {repr : String → String} {repetitions : Option ℤ} {state : TableState} {line : List Char}

/-- A line that the program prints besides its table. -/
structure LogLine (line : List Char) : Prop where
  plain : '|' ∉ line
  unbroken : Unbroken line

/-- What a table is printed with: its titles, among which those of the test and of its figures, a rule of dashes with
colons, and lines without a bar in front of it. -/
structure Printed (titles before : List (List Char)) (rule : List Char → List Char) : Prop where
  test : "test".toList ∈ titles
  rate : "t/s".toList ∈ titles
  title_text : ∀ title ∈ titles, CellText title
  dashes : ∀ title ∈ titles, ∀ c ∈ rule title, c = '-' ∨ c = ':'
  logs : ∀ line ∈ before, LogLine line

/-- A line without a bar is passed over. -/
lemma tableLine_log (log : LogLine line) : tableLine repr repetitions state line = .ok state := by
  have none : splitTableRow line = none := by
    rw [splitTableRow, if_neg fun mem => log.plain (mem_of_mem_trim mem)]
  rw [tableLine, none]

/-- A table has two columns at least. -/
lemma Printed.two (printed : Printed titles before rule) : 2 ≤ titles.length := by
  have test := printed.test
  have rate := printed.rate
  cases titles with
  | nil => cases test
  | cons title rest =>
    cases rest with
    | nil =>
      have same := (List.mem_singleton.mp test).trans (List.mem_singleton.mp rate).symm
      exact absurd same (by decide)
    | cons => exact Nat.le_add_left _ _

lemma normalize_test : normalizeHeader "test".toList = "test".toList := by
  decide +kernel

lemma normalize_rate : normalizeHeader "t/s".toList = "t/s".toList := by
  decide +kernel

/-- The line of the titles sets the places of the columns. -/
lemma tableLine_header (printed : Printed titles before rule) :
    tableLine repr repetitions state (rowLine pad titles id) =
      .ok { state with headers := some (headersOf (titles.map normalizeHeader)) } := by
  have cells := @splitTableRow_rowLine pad titles id printed.two printed.title_text
  rw [List.map_id] at cells
  have words : ¬isSeparator titles = true := by
    intro separator
    have dashes := List.all_eq_true.mp separator _ printed.test
    exact absurd dashes (by decide)
  have named : ((titles.map normalizeHeader).contains "test".toList &&
      (titles.map normalizeHeader).contains "t/s".toList) = true := by
    rw [Bool.and_eq_true, List.contains_iff_mem, List.contains_iff_mem]
    constructor
    · exact List.mem_map.mpr ⟨_, printed.test, normalize_test⟩
    · exact List.mem_map.mpr ⟨_, printed.rate, normalize_rate⟩
  rw [tableLine, cells]
  dsimp only
  rw [if_neg words, if_pos named]

/-- Rules may stand in cells. -/
lemma Printed.rule_text (printed : Printed titles before rule) : ∀ title ∈ titles, CellText (rule title) := by
  intro title own
  apply cellText_of_all
  apply List.all_eq_true.mpr
  intro c mem
  rcases printed.dashes title own c mem with rfl | rfl
  · rfl
  · rfl

/-- The rule below the titles is passed over. -/
lemma tableLine_rule (printed : Printed titles before rule) :
    tableLine repr repetitions state (rowLine pad titles rule) = .ok state := by
  have separator : isSeparator (titles.map rule) = true := by
    apply List.all_eq_true.mpr
    intro cell mem
    obtain ⟨title, own, rfl⟩ := List.mem_map.mp mem
    apply List.all_eq_true.mpr
    intro c inside
    have kept := List.mem_filter.mp (mem_of_mem_trim inside)
    rcases printed.dashes title own c kept.1 with dash | colon
    · exact decide_eq_true dash
    · exact absurd colon (of_decide_eq_true kept.2)
  rw [tableLine, splitTableRow_rowLine printed.two printed.rule_text]
  dsimp only
  rw [if_pos separator]

/-- A title keeps the first character that folds to itself. -/
lemma normalizeHeader_cons {text : List Char} {c : Char} (rest : List Char) (split : text = c :: rest)
    (trimmed : Trimmed isSpace text) (own : foldChar c = [c]) (solid : isSpace c = false) :
    normalizeHeader text = c :: joinRuns false (rest.flatMap foldChar) := by
  rw [normalizeHeader, trim_of_trimmed trimmed, split, List.flatMap_cons, own, List.singleton_append, joinRuns,
    if_neg (Bool.eq_false_iff.mp solid)]

/-- A digit folds to itself. -/
lemma foldChar_digit {c : Char} (digit : c.isDigit = true) : foldChar c = [c] := by
  have code : 48 ≤ c.toNat ∧ c.toNat ≤ 57 := Char.isDigit_iff_toNat.mp digit
  have noCapital : isAsciiUpper c = false := by
    rw [isAsciiUpper, Bool.and_eq_false_iff, decide_eq_false_iff_not, decide_eq_false_iff_not, Char.le_def,
      Char.le_def, UInt32.le_iff_toNat_le, UInt32.le_iff_toNat_le]
    have first : ('A').val.toNat = 65 := rfl
    have same : c.val.toNat = c.toNat := rfl
    omega
  rw [foldChar, noCapital, if_neg Bool.false_ne_true, if_pos (by omega)]

/-- A label begins with a mark. -/
lemma BenchTest.text_mark (test : BenchTest) : ∃ kind rest, test.text = kindMark kind ++ rest := by
  cases test with
  | single kind tokens => exact ⟨kind, _, rfl⟩
  | combined prompt generated => exact ⟨.prefill, _, rfl⟩

/-- No text of a printable row reads as the title of the figures. -/
lemma BenchRow.Printable.cell_name (printable : row.Printable titles) :
    ∀ title ∈ titles, normalizeHeader (row.cell title) ≠ "t/s".toList := by
  intro title own
  rw [BenchRow.cell]
  split_ifs
  · obtain ⟨kind, rest, text⟩ := row.test.text_mark
    have trimmed := (cellText_of_all row.test.all_text).trimmed
    rw [text] at trimmed ⊢
    cases kind with
    | prefill =>
      have split : kindMark .prefill ++ rest = 'p' :: 'p' :: rest := rfl
      intro eq
      rw [normalizeHeader_cons _ split trimmed (by decide) rfl] at eq
      exact absurd (List.cons.inj eq).1 (by decide)
    | generation =>
      have split : kindMark .generation ++ rest = 't' :: 'g' :: rest := rfl
      intro eq
      rw [normalizeHeader_cons _ split trimmed (by decide) rfl] at eq
      have second := (List.cons.inj eq).2
      rw [List.flatMap_cons, show foldChar 'g' = ['g'] by decide, List.singleton_append, joinRuns,
        if_neg (by decide)] at second
      exact absurd (List.cons.inj second).1 (by decide)
  · obtain ⟨c, rest, first, digit⟩ := figureText_head printable.mean_nonneg
    have trimmed := (BenchRow.cellText_rate printable.mean_nonneg printable.stddev_nonneg).trimmed
    have split : row.rate = c :: (rest ++ [' ', '±', ' '] ++ figureText row.stddev) := by
      rw [BenchRow.rate, first]
      rfl
    intro eq
    rw [normalizeHeader_cons _ split trimmed (foldChar_digit digit) (digit_plain digit).1] at eq
    rw [(List.cons.inj eq).1] at digit
    cases digit
  · exact printable.field_name title own

/-- Under the title of the tests stands the test. -/
lemma BenchRow.cell_test (row : BenchRow) {title : List Char} (named : normalizeHeader title = "test".toList) :
    row.cell title = row.test.text := by
  rw [BenchRow.cell, if_pos named]

/-- Under the title of the rates stands the rate. -/
lemma BenchRow.cell_rate (row : BenchRow) {title : List Char} (named : normalizeHeader title = "t/s".toList) :
    row.cell title = row.rate := by
  have other : ¬normalizeHeader title = "test".toList := by
    rw [named]
    decide
  rw [BenchRow.cell, if_neg other, if_pos named]

/-- A test has a name. -/
lemma BenchTest.text_ne_nil (test : BenchTest) : test.text ≠ [] := by
  obtain ⟨kind, rest, text⟩ := test.text_mark
  rw [text]
  cases kind with
  | prefill => exact List.cons_ne_nil _ _
  | generation => exact List.cons_ne_nil _ _

/-- A row of a test is no rule. -/
lemma BenchRow.not_separator (row : BenchRow) (test : "test".toList ∈ titles) :
    ¬isSeparator (titles.map row.cell) = true := by
  intro separator
  have dashes := List.all_eq_true.mp separator _ (List.mem_map_of_mem test)
  obtain ⟨kind, rest, text⟩ := row.test.text_mark
  have solid : ∀ c ∈ row.test.text.filter (· ≠ ':'), isSpace c = false := by
    intro c mem
    exact (isCellChar_eq_true.mp (List.all_eq_true.mp row.test.all_text c (List.mem_of_mem_filter mem))).2.2
  rw [row.cell_test normalize_test, trim_of_trimmed (trimmed_of_forall solid), text] at dashes
  cases kind with
  | prefill => cases dashes
  | generation => cases dashes

/-- A value is found under any title that is normalised to its name. -/
lemma underTitle_eq {text : List Char → List Char} {name : String} {value : List Char}
    (named : ∃ title ∈ titles, normalizeHeader title = name.toList) (some' : value ≠ [])
    (own : ∀ title, normalizeHeader title = name.toList → text title = value) :
    underTitle titles text name = some value := by
  rw [underTitle]
  cases found : titles.reverse.find? fun title => normalizeHeader title = name.toList with
  | none =>
    obtain ⟨title, mem, eq⟩ := named
    have other := List.find?_eq_none.mp found title (List.mem_reverse.mpr mem)
    exact absurd (decide_eq_true eq) other
  | some title =>
    have matched := List.find?_some found
    rw [Option.map_some, own title (of_decide_eq_true matched), Option.filter_some, if_pos (decide_eq_true some')]

/-- A measurement within its bounds passes its validator. -/
lemma validated_eq {measurement : TableMeasurement} (tokens : 0 < measurement.tokens)
    (mean : 0 ≤ measurement.meanTokensPerSecond ∧ measurement.meanTokensPerSecond < overflowBound)
    (stddev : 0 ≤ measurement.stddevTokensPerSecond ∧ measurement.stddevTokensPerSecond < overflowBound)
    (rounds : ∀ r ∈ measurement.repetitions, 1 ≤ r) : validated measurement = .ok measurement := by
  have few : ¬measurement.repetitions.any (· < 1) = true := by
    cases given : measurement.repetitions with
    | none => exact Bool.false_ne_true
    | some r =>
      intro small
      exact absurd (rounds r given) (not_le.mpr (of_decide_eq_true small))
  rw [validated, if_neg (not_le.mpr tokens), if_neg (not_or.mpr ⟨not_lt.mpr mean.1, not_le.mpr mean.2⟩),
    if_neg (not_or.mpr ⟨not_lt.mpr stddev.1, not_le.mpr stddev.2⟩), if_neg few]

/-- The cells of a row are read as its measurement. -/
lemma parseMeasurementRow_row (printed : Printed titles before rule) (printable : row.Printable titles)
    (rounds : ∀ r ∈ repetitions, 1 ≤ r) :
    parseMeasurementRow repr repetitions (titles.map row.cell) (headersOf (titles.map normalizeHeader)) =
      .ok (row.measured titles repetitions) := by
  have field : ∀ name, cellAt (titles.map row.cell) (headersOf (titles.map normalizeHeader)) name =
      underTitle titles row.cell name := fun name => cellAt_headersOf printable.cellText
  have test : underTitle titles row.cell "test" = some row.test.text :=
    underTitle_eq ⟨_, printed.test, normalize_test⟩ row.test.text_ne_nil fun title named => row.cell_test named
  -- the two columns that the parser asks for are there and filled
  have figures : row.rate ≠ [] := by
    obtain ⟨c, rest, first, -⟩ := figureText_head printable.mean_nonneg
    rw [BenchRow.rate, first]
    exact List.cons_ne_nil _ _
  have rate : underTitle titles row.cell "t/s" = some row.rate :=
    underTitle_eq ⟨_, printed.rate, normalize_rate⟩ figures fun title named => row.cell_rate named
  have whole : ∀ test : BenchTest, trim isSpace test.text = test.text :=
    fun test => trim_of_trimmed (cellText_of_all test.all_text).trimmed
  have label := testLabel_read row.test
  rw [parseMeasurementRow, field, test, BenchRow.measured]
  dsimp only
  rw [whole, label]
  cases single : row.test with
  | combined prompt generated => rfl
  | single kind tokens =>
    obtain ⟨positive, short⟩ := printable.tokens kind tokens single
    -- the label is that of one test, and its number is read back
    have size : parseInt (Nat.toDigits 10 tokens) = .ok tokens := by
      rw [parseInt_eq_ok, decimalValue_eq (allDigits_toDigits tokens), Nat.ofDigitChars_ten_toDigits]
      exact ⟨short, rfl⟩
    dsimp only
    rw [field, rate]
    dsimp only
    rw [rateFigures_read printable.mean_nonneg printable.stddev_nonneg]
    dsimp only
    rw [measurementOf, size, floatText_figureText printable.mean_nonneg, floatText_figureText printable.stddev_nonneg,
      field, field, field, whole]
    refine congrArg (Except.map some) (validated_eq ?_ ⟨?_, ?_⟩ ⟨?_, ?_⟩ ?_)
    · exact Int.natCast_pos.mpr positive
    · exact printedFigure_nonneg printable.mean_nonneg
    · exact printable.mean_lt
    · exact printedFigure_nonneg printable.stddev_nonneg
    · exact printable.stddev_lt
    · exact rounds

/-- The line of a row adds its measurement. -/
lemma tableLine_row (printed : Printed titles before rule) (printable : row.Printable titles)
    (rounds : ∀ r ∈ repetitions, 1 ≤ r) (set : state.headers = some (headersOf (titles.map normalizeHeader))) :
    tableLine repr repetitions state (rowLine pad titles row.cell) =
      .ok { state with measurements := state.measurements ++ (row.measured titles repetitions).toList } := by
  have unnamed : ¬(((titles.map row.cell).map normalizeHeader).contains "test".toList &&
      ((titles.map row.cell).map normalizeHeader).contains "t/s".toList) = true := by
    rw [Bool.and_eq_true, List.contains_iff_mem, List.contains_iff_mem]
    rintro ⟨-, rate⟩
    rw [List.map_map] at rate
    obtain ⟨title, own, eq⟩ := List.mem_map.mp rate
    exact printable.cell_name title own eq
  rw [tableLine, splitTableRow_rowLine printed.two printable.cellText]
  dsimp only
  rw [if_neg (row.not_separator printed.test), if_neg unnamed, set]
  dsimp only
  rw [parseMeasurementRow_row printed printable rounds]
  rfl

/-- A line below the rule: a row of the table, or one that is printed besides it. -/
inductive BodyLine
  | log (text : List Char)
  | row (row : BenchRow)

/-- The row of a line. -/
def BodyLine.row? : BodyLine → Option BenchRow
  | .log _ => none
  | .row row => some row

/-- The text of a line. -/
def BodyLine.write (pad : List Char → List Char → ℕ × ℕ) (titles : List (List Char)) : BodyLine → List Char
  | .log text => text
  | .row row => rowLine pad titles row.cell

/-- What a line below the rule must be. -/
def BodyLine.Fits (titles : List (List Char)) : BodyLine → Prop
  | .log text => LogLine text
  | .row row => row.Printable titles

/-- The measurement of a line. -/
def BodyLine.measured (titles : List (List Char)) (repetitions : Option ℤ) (line : BodyLine) :
    Option TableMeasurement :=
  line.row?.bind fun row => row.measured titles repetitions

/-- The output of llama-bench: lines in front of the table, its titles, the rule, and the rows with lines among
them. -/
def benchOutput (pad : List Char → List Char → ℕ × ℕ) (rule : List Char → List Char) (titles before : List (List Char))
    (body : List BodyLine) : String :=
  String.ofList (writeLines
    (before ++ rowLine pad titles id :: rowLine pad titles rule :: body.map (·.write pad titles)))

/-- A row is one line. -/
lemma unbroken_rowLine {text : List Char → List Char} (clean : ∀ title ∈ titles, CellText (text title)) :
    Unbroken (rowLine pad titles text) := by
  intro c mem
  rcases List.mem_cons.mp mem with rfl | mem
  · rfl
  · obtain ⟨title, own, mem⟩ := List.mem_flatMap.mp mem
    rcases List.mem_append.mp mem with mem | bar
    · rcases mem_laid mem with rfl | inside
      · rfl
      · exact (clean title own).unbroken c inside
    · rw [List.mem_singleton.mp bar]
      rfl

/-- What the rows of a table come to, once its titles are read. -/
lemma foldlM_body {body : List BodyLine} (printed : Printed titles before rule)
    (fits : ∀ line ∈ body, line.Fits titles) (rounds : ∀ r ∈ repetitions, 1 ≤ r)
    (set : state.headers = some (headersOf (titles.map normalizeHeader))) :
    (body.map (·.write pad titles)).foldlM (tableLine repr repetitions) state =
      .ok { state with measurements := state.measurements ++ body.filterMap (·.measured titles repetitions) } := by
  induction body generalizing state with
  | nil =>
    rw [List.filterMap_nil, List.append_nil]
    rfl
  | cons line body ih =>
    have later := fun other mem => fits other (List.mem_cons_of_mem line mem)
    have own := fits line List.mem_cons_self
    rw [List.map_cons, List.foldlM_cons]
    cases line with
    | log text =>
      rw [show BodyLine.write pad titles (.log text) = text from rfl, tableLine_log own, ok_bind, ih later set]
      rfl
    | row row =>
      rw [show BodyLine.write pad titles (.row row) = rowLine pad titles row.cell from rfl,
        tableLine_row printed own rounds set, ok_bind, ih later (by exact set), List.append_assoc]
      have first : (BodyLine.row row :: body).filterMap (·.measured titles repetitions) =
          (row.measured titles repetitions).toList ++ body.filterMap (·.measured titles repetitions) := by
        rw [List.filterMap_cons, show (BodyLine.row row).measured titles repetitions = row.measured titles repetitions
          from rfl]
        cases row.measured titles repetitions with
        | none => rfl
        | some measurement => rfl
      rw [first]

/-- Lines of a log are passed by. -/
lemma foldlM_logs {logs rest : List (List Char)} (logs' : ∀ line ∈ logs, LogLine line) :
    (logs ++ rest).foldlM (tableLine repr repetitions) state =
      rest.foldlM (tableLine repr repetitions) state := by
  induction logs with
  | nil => rfl
  | cons line logs ih =>
    rw [List.cons_append, List.foldlM_cons, tableLine_log (logs' line List.mem_cons_self), ok_bind,
      ih fun other mem => logs' other (List.mem_cons_of_mem _ mem)]

/-- A table that llama-bench prints is read back row by row, whatever its columns and however their cells are filled
up, and among whatever other lines without bars it stands. -/
theorem parse_benchOutput {body : List BodyLine} (printed : Printed titles before rule)
    (fits : ∀ line ∈ body, line.Fits titles) (rounds : ∀ r ∈ repetitions, 1 ≤ r) :
    parseLlamaBenchOutput repr repetitions (benchOutput pad rule titles before body) =
      if body.filterMap (·.measured titles repetitions) = [] then
        .error (.parse "No llama-bench pp/tg measurements were found.")
      else .ok (body.filterMap (·.measured titles repetitions)) := by
  have unbroken : ∀ line ∈ before ++ rowLine pad titles id :: rowLine pad titles rule ::
      body.map (·.write pad titles), Unbroken line := by
    intro line mem
    rcases List.mem_append.mp mem with log | mem
    · exact (printed.logs line log).unbroken
    · rcases List.mem_cons.mp mem with rfl | mem
      · exact unbroken_rowLine printed.title_text
      · rcases List.mem_cons.mp mem with rfl | mem
        · exact unbroken_rowLine printed.rule_text
        · obtain ⟨other, own, rfl⟩ := List.mem_map.mp mem
          have holds := fits other own
          cases other with
          | log text => exact holds.unbroken
          | row row => exact unbroken_rowLine holds.cellText
  rw [parseLlamaBenchOutput, benchOutput, splitLines_writeLines unbroken, foldlM_logs printed.logs, List.foldlM_cons,
    tableLine_header printed, ok_bind, List.foldlM_cons, tableLine_rule printed, ok_bind,
    foldlM_body printed fits rounds rfl, ok_bind, List.nil_append]

end Written

section Sample

/-- The titles of a small table. -/
def sampleTitles : List (List Char) :=
  ["dev".toList, "t/s".toList, "test".toList]

/-- A row of it. -/
def sampleRow (test : BenchTest) : BenchRow where
  test := test
  mean := 1234
  stddev := 1 / 4
  field _ := "Vulkan0".toList

/-- The rows of the example can be printed. -/
lemma sampleRow_printable {test : BenchTest} (tokens : ∀ kind tokens, test = .single kind tokens →
    0 < tokens ∧ (Nat.toDigits 10 tokens).length ≤ maxIntDigits) : (sampleRow test).Printable sampleTitles where
  mean_nonneg := show (0 : ℚ) ≤ 1234 by decide
  stddev_nonneg := show (0 : ℚ) ≤ 1 / 4 by decide +kernel
  mean_lt := show printedFigure 1234 < overflowBound by decide +kernel
  stddev_lt := show printedFigure (1 / 4) < overflowBound by decide +kernel
  tokens := tokens
  field_text _ _ := cellText_of_all rfl
  field_name _ _ := show normalizeHeader "Vulkan0".toList ≠ "t/s".toList by decide +kernel

/-- So can its titles. -/
lemma sampleTitles_printed : Printed sampleTitles ["loading".toList] (fun _ => "--:".toList) where
  test := by decide
  rate := by decide
  title_text title mem := by
    have texts : sampleTitles.all (·.all isCellChar) = true := by decide
    exact cellText_of_all (List.all_eq_true.mp texts title mem)
  dashes title _ c mem := by
    have marks : "--:".toList.all (fun c => c = '-' || c = ':') = true := by decide
    rcases (Bool.or_eq_true _ _).mp (List.all_eq_true.mp marks c mem) with dash | colon
    · exact .inl (of_decide_eq_true dash)
    · exact .inr (of_decide_eq_true colon)
  logs line mem := by
    rw [List.mem_singleton.mp mem]
    have clean : CellText "loading".toList := cellText_of_all rfl
    exact ⟨clean.plain, clean.unbroken⟩

/-- A table of two rows with a line between them is read as the one that tests a single size. -/
theorem parse_benchOutput_sample :
    parseLlamaBenchOutput id (some 5)
        (benchOutput (fun _ text => (3, text.length)) (fun _ => "--:".toList) sampleTitles ["loading".toList]
          [.row (sampleRow (.single .prefill 512)), .log [], .row (sampleRow (.combined 512 128))]) =
      .ok
        [{ kind := .prefill
           tokens := 512
           meanTokensPerSecond := 1234
           stddevTokensPerSecond := 1 / 4
           repetitions := some 5
           sourceLabel := "pp512"
           rawDevice := some "Vulkan0" }] := by
  rw [parse_benchOutput]
  · decide +kernel
  · exact sampleTitles_printed
  · intro line mem
    have size : ∀ kind tokens, BenchTest.single .prefill 512 = .single kind tokens →
        0 < tokens ∧ (Nat.toDigits 10 tokens).length ≤ maxIntDigits := by
      intro kind tokens same
      cases same
      exact ⟨by decide, by decide⟩
    rcases List.mem_cons.mp mem with rfl | mem
    · exact sampleRow_printable size
    · rcases List.mem_cons.mp mem with rfl | mem
      · have clean : CellText [] := cellText_of_all rfl
        exact ⟨clean.plain, clean.unbroken⟩
      · rw [List.mem_singleton.mp mem]
        exact sampleRow_printable fun kind tokens same => by cases same
  · intro r mem
    rw [← Option.some.inj mem]
    decide

end Sample
end Jaull.Runtime
