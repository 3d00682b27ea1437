import Jaull.Lib.NumberText
import Mathlib.Data.List.Basic
import Mathlib.Tactic.IntervalCases

/-!
# JSON texts of trees

Python's `json.dumps` of a tree with `ensure_ascii=False`, as code points, compact or indented. A text is
the text of one tree only.
-/

namespace Jaull.Lib

/-- The code points of a string. -/
def PyString.codes : PyString → List ℕ
  | .text chars => chars.toList.map Char.toNat
  | .surrogate before code after =>
    before.toList.map Char.toNat ++ (0xd800 + code.val) :: after.codes

/-- A code point of a JSON string (Python `json.encoder.py_encode_basestring`). -/
def escapeCode (n : ℕ) : List ℕ :=
  if n = 34 then [92, 34]
  else if n = 92 then [92, 92]
  else if n = 10 then [92, 110]
  else if n = 13 then [92, 114]
  else if n = 9 then [92, 116]
  else if n = 12 then [92, 102]
  else if n = 8 then [92, 98]
  else if n < 32 then
    [92, 117, 48, 48, (Nat.digitChar (n / 16)).toNat, (Nat.digitChar (n % 16)).toNat]
  else [n]

/-- A JSON string. -/
def quotedCodes (s : PyString) : List ℕ :=
  34 :: (s.codes.flatMap escapeCode ++ [34])

/-- The text of a value that is no string, list or dictionary. -/
def Json.scalarText : Json → List Char
  | .null => ['n', 'u', 'l', 'l']
  | .bool true => ['t', 'r', 'u', 'e']
  | .bool false => ['f', 'a', 'l', 's', 'e']
  | .int n => intText n
  | .float .nan => ['N', 'a', 'N']
  | .float (.infinity negative) => signed negative ['I', 'n', 'f', 'i', 'n', 'i', 't', 'y']
  | .float (.finite decimal) => decimal.toText
  | _ => []

/-- How `dumps` sets out a tree: on one line without blanks, or with an indent. -/
inductive Layout
  | compact
  | indented (width : ℕ)
  deriving DecidableEq, Repr

/-- What stands in front of a member at a depth. -/
def Layout.gap : Layout → ℕ → List ℕ
  | .compact, _ => []
  | .indented width, depth => 10 :: List.replicate (width * depth) 32

/-- What stands between a key and its value. -/
def Layout.colon : Layout → List ℕ
  | .compact => [58]
  | .indented _ => [58, 32]

mutual

/-- Python `dumps`. -/
def render (l : Layout) (depth : ℕ) : Json → List ℕ
  | .null => Json.null.scalarText.map Char.toNat
  | .bool b => (Json.bool b).scalarText.map Char.toNat
  | .int n => (Json.int n).scalarText.map Char.toNat
  | .float x => (Json.float x).scalarText.map Char.toNat
  | .str s => quotedCodes s
  | .arr [] => [91, 93]
  | .arr (item :: items) =>
    91 :: (l.gap (depth + 1) ++ (render l (depth + 1) item ++ renderItems l depth items))
  | .obj [] => [123, 125]
  | .obj ((key, value) :: fields) =>
    123 :: (l.gap (depth + 1) ++ (quotedCodes key ++ (l.colon ++
      (render l (depth + 1) value ++ renderFields l depth fields))))

/-- The items of a list that follow its first. -/
def renderItems (l : Layout) (depth : ℕ) : List Json → List ℕ
  | [] => l.gap depth ++ [93]
  | item :: items =>
    44 :: (l.gap (depth + 1) ++ (render l (depth + 1) item ++ renderItems l depth items))

/-- The entries of a dictionary that follow its first. -/
def renderFields (l : Layout) (depth : ℕ) : List (PyString × Json) → List ℕ
  | [] => l.gap depth ++ [125]
  | (key, value) :: fields =>
    44 :: (l.gap (depth + 1) ++ (quotedCodes key ++ (l.colon ++
      (render l (depth + 1) value ++ renderFields l depth fields))))

end

section Strings

lemma map_toNat_injective {l m : List Char} (eq : l.map Char.toNat = m.map Char.toNat) : l = m :=
  List.map_injective_iff.mpr (fun _ _ eq => Char.toNat_inj.mp eq) eq

/-- No character is a surrogate. -/
lemma Char.not_surrogate (c : Char) : ¬(0xd800 ≤ c.toNat ∧ c.toNat < 0xe000) := by
  rintro ⟨le, lt⟩
  rcases c.valid with valid | valid
  · exact absurd valid (Nat.not_lt.mpr le)
  · exact absurd valid.1 (by simpa using Nat.le_of_lt_succ lt)

/-- Text up to a lone surrogate can be told from the surrogate. -/
lemma text_before_surrogate {l m : List Char} {a b : Fin 2048} {s t : List ℕ}
    (eq : l.map Char.toNat ++ (0xd800 + a.val) :: s = m.map Char.toNat ++ (0xd800 + b.val) :: t) :
    l = m ∧ a = b ∧ s = t := by
  induction l generalizing m with
  | nil =>
    cases m with
    | nil =>
      obtain ⟨code, rest⟩ := List.cons.inj eq
      exact ⟨rfl, Fin.ext (Nat.add_left_cancel code), rest⟩
    | cons c m =>
      refine absurd ?_ (Char.not_surrogate c)
      rw [← (List.cons.inj eq).1]
      omega
  | cons c l ih =>
    cases m with
    | nil =>
      refine absurd ?_ (Char.not_surrogate c)
      rw [(List.cons.inj eq).1]
      omega
    | cons c' m =>
      obtain ⟨head, rest⟩ := List.cons.inj eq
      obtain ⟨rfl, codes⟩ := ih rest
      rw [Char.toNat_inj.mp head]
      exact ⟨rfl, codes⟩

/-- A text is no text with a surrogate in it. -/
lemma text_ne_surrogate {l m : List Char} {a : Fin 2048} {s : List ℕ} :
    l.map Char.toNat ≠ m.map Char.toNat ++ (0xd800 + a.val) :: s := by
  intro eq
  have mem : 0xd800 + a.val ∈ l.map Char.toNat := by
    rw [eq]
    exact List.mem_append_right _ List.mem_cons_self
  obtain ⟨c, -, code⟩ := List.mem_map.mp mem
  refine absurd ?_ (Char.not_surrogate c)
  rw [code]
  omega

/-- Texts are told apart by their code points. -/
lemma PyString.codes_injective {s t : PyString} (eq : s.codes = t.codes) : s = t := by
  induction s generalizing t with
  | text chars =>
    cases t with
    | text chars' => rw [String.toList_inj.mp (map_toNat_injective eq)]
    | surrogate before code after => exact absurd eq text_ne_surrogate
  | surrogate before code after ih =>
    cases t with
    | text chars' => exact absurd eq.symm text_ne_surrogate
    | surrogate before' code' after' =>
      obtain ⟨same, rfl, rest⟩ := text_before_surrogate eq
      rw [String.toList_inj.mp same, ih rest]

/-- The code point that an escaped text begins with, and what follows it. -/
def readCode : List ℕ → Option (ℕ × List ℕ)
  | 92 :: 117 :: _ :: _ :: high :: low :: rest =>
    some (16 * (high - 48) + (if low < 58 then low - 48 else low - 87), rest)
  | 92 :: code :: rest => ([(110, 10), (114, 13), (116, 9), (102, 12), (98, 8), (34, 34),
      (92, 92)].lookup code).map (·, rest)
  | code :: rest => some (code, rest)
  | [] => none

/-- An escaped code point is read back. -/
lemma readCode_escapeCode (n : ℕ) (rest : List ℕ) :
    readCode (escapeCode n ++ rest) = some (n, rest) := by
  by_cases special : n < 32
  · have all : ∀ n < 32, ∀ rest : List ℕ, readCode (escapeCode n ++ rest) = some (n, rest) := by
      intro n small rest
      interval_cases n <;> rfl
    exact all n special rest
  · by_cases quote : n = 34
    · subst quote
      rfl
    · by_cases slash : n = 92
      · subst slash
        rfl
      · have plain : escapeCode n = [n] := by
          rw [escapeCode, if_neg quote, if_neg slash, if_neg (by omega), if_neg (by omega),
            if_neg (by omega), if_neg (by omega), if_neg (by omega), if_neg special]
        rw [plain, List.singleton_append]
        unfold readCode
        split
        · rename_i eq
          exact absurd (List.cons.inj eq).1 slash
        · rename_i eq
          exact absurd (List.cons.inj eq).1 slash
        · rename_i eq
          rw [(List.cons.inj eq).1, (List.cons.inj eq).2]
        · rename_i eq
          cases eq

/-- None of them begins with a quote. -/
lemma escapeCode_ne_quote (n : ℕ) (rest s : List ℕ) : escapeCode n ++ rest ≠ 34 :: s := by
  intro eq
  have read := congrArg readCode eq
  rw [readCode_escapeCode, show readCode (34 :: s) = some (34, s) from rfl] at read
  obtain ⟨rfl, -⟩ := Prod.mk.inj (Option.some.inj read)
  cases eq

/-- So an escaped text ends at the first quote. -/
lemma escaped_split {l m s t : List ℕ}
    (eq : l.flatMap escapeCode ++ 34 :: s = m.flatMap escapeCode ++ 34 :: t) : l = m ∧ s = t := by
  induction l generalizing m with
  | nil =>
    cases m with
    | nil => exact ⟨rfl, (List.cons.inj eq).2⟩
    | cons n m =>
      rw [List.flatMap_cons, List.append_assoc] at eq
      exact absurd eq.symm (escapeCode_ne_quote n _ _)
  | cons k l ih =>
    cases m with
    | nil =>
      rw [List.flatMap_cons, List.append_assoc] at eq
      exact absurd eq (escapeCode_ne_quote k _ _)
    | cons n m =>
      rw [List.flatMap_cons, List.flatMap_cons, List.append_assoc, List.append_assoc] at eq
      have read := congrArg readCode eq
      rw [readCode_escapeCode, readCode_escapeCode] at read
      obtain ⟨rfl, rest⟩ := Prod.mk.inj (Option.some.inj read)
      obtain ⟨rfl, tail⟩ := ih rest
      exact ⟨rfl, tail⟩

/-- So does a key. -/
lemma quotedCodes_split {k k' : PyString} {s t : List ℕ}
    (eq : quotedCodes k ++ s = quotedCodes k' ++ t) : k = k' ∧ s = t := by
  rw [quotedCodes, quotedCodes, List.cons_append, List.cons_append, List.append_assoc,
    List.append_assoc] at eq
  obtain ⟨codes, rest⟩ := escaped_split (List.cons.inj eq).2
  exact ⟨PyString.codes_injective codes, rest⟩

end Strings

section Words

/-- What opens a tree: a quote, a bracket, a brace, or neither. -/
def Json.opening : Json → Option ℕ
  | .str _ => some 34
  | .arr _ => some 91
  | .obj _ => some 123
  | _ => none

/-- The code points of numbers and of `null`, `true`, `false`, `NaN` and `Infinity`. -/
def isWordCode (n : ℕ) : Bool :=
  48 ≤ n && n ≤ 57 || 65 ≤ n && n ≤ 90 || 97 ≤ n && n ≤ 122 || n = 43 || n = 45 || n = 46

/-- Whether a word ends where a text goes on like this. -/
def Stops (s : List ℕ) : Prop :=
  ∀ n ∈ s.head?, isWordCode n = false

/-- The characters of a number stand in words. -/
lemma isWordCode_of_number {c : Char} (number : isNumberChar c = true) :
    isWordCode c.toNat = true := by
  simp only [isNumberChar, Bool.or_eq_true, decide_eq_true_eq] at number
  rcases number with (((digit | rfl) | rfl) | rfl) | rfl
  · rw [Char.isDigit, Bool.and_eq_true, decide_eq_true_eq, decide_eq_true_eq] at digit
    have low : 48 ≤ c.toNat := digit.1
    have high : c.toNat ≤ 57 := digit.2
    simp [isWordCode, low, high]
  all_goals rfl

/-- The letter or digit that tells the kind of a word: the first behind a minus sign. -/
def leading (word : List Char) : Option Char :=
  (word.dropWhile (· = '-')).head?

/-- The first digit behind a sign. -/
lemma leading_signed {negative : Bool} {body : List Char} {c : Char} {rest : List Char}
    (head : body = c :: rest) (plain : c ≠ '-') : leading (signed negative body) = some c := by
  have drop : body.dropWhile (· = '-') = c :: rest := by
    rw [head, List.dropWhile_cons_of_neg (by simpa using plain)]
  cases negative with
  | false => rw [leading, signed, if_neg (by decide), drop, List.head?_cons]
  | true =>
    rw [leading, signed, if_pos rfl, List.dropWhile_cons_of_pos (by decide), drop,
      List.head?_cons]

lemma digit_ne_dash {c : Char} (digit : c.isDigit = true) : c ≠ '-' := by
  rintro rfl
  cases digit

/-- An integer begins with a digit behind its sign. -/
lemma leading_intText (n : ℤ) : ∃ c, leading (intText n) = some c ∧ c.isDigit = true := by
  obtain ⟨c, rest, head, digit⟩ := toDigits_head n.natAbs
  exact ⟨c, leading_signed head (digit_ne_dash digit), digit⟩

/-- So does a decimal. -/
lemma leading_toText (d : Decimal) : ∃ c, leading d.toText = some c ∧ c.isDigit = true := by
  obtain ⟨c, rest, head, digit⟩ := magnitudeText_head d.digits d.exponent
  exact ⟨c, leading_signed head (digit_ne_dash digit), digit⟩

/-- No integer is written like a decimal. -/
lemma intText_ne_toText (n : ℤ) (d : Decimal) : intText n ≠ d.toText := by
  intro eq
  have plain : ∀ c ∈ intText n, c ≠ '.' ∧ c ≠ 'e' := by
    intro c mem
    have digits := allDigits_toDigits n.natAbs
    rw [intText, signed] at mem
    split at mem
    · rcases List.mem_cons.mp mem with rfl | mem
      · decide
      · exact ⟨digits.ne rfl c mem, digits.ne rfl c mem⟩
    · exact ⟨digits.ne rfl c mem, digits.ne rfl c mem⟩
  rw [eq] at plain
  have inside : ∀ c ∈ magnitudeText d.digits d.exponent, c ∈ d.toText := by
    intro c mem
    rw [Decimal.toText, signed]
    split
    · exact List.mem_cons_of_mem _ mem
    · exact mem
  rcases magnitudeText_mark d.digits d.exponent with mem | mem
  · exact (plain _ (inside _ mem)).1 rfl
  · exact (plain _ (inside _ mem)).2 rfl

/-- The kind of a word with this leading character. -/
def leadingKind : Option Char → ℕ
  | some 'n' => 0
  | some 't' => 1
  | some 'f' => 2
  | some 'N' => 3
  | some 'I' => 4
  | _ => 5

/-- The kind of a value that is no string, list or dictionary; finite numbers are of one kind. -/
def Json.kind : Json → ℕ
  | .null => 0
  | .bool true => 1
  | .bool false => 2
  | .float .nan => 3
  | .float (.infinity _) => 4
  | _ => 5

/-- Digits tell a number. -/
lemma leadingKind_digit {c : Char} (digit : c.isDigit = true) : leadingKind (some c) = 5 := by
  rw [leadingKind]
  all_goals
    rintro eq
    rw [Option.some.inj eq] at digit
    cases digit

/-- The first character of a scalar tells its kind. -/
lemma leadingKind_scalarText {a : Json} (scalar : a.opening = none) :
    leadingKind (leading a.scalarText) = a.kind := by
  match a with
  | .null => rfl
  | .bool true => rfl
  | .bool false => rfl
  | .int n =>
    obtain ⟨c, lead, digit⟩ := leading_intText n
    rw [Json.scalarText, lead, leadingKind_digit digit]
    rfl
  | .float .nan => rfl
  | .float (.infinity true) => rfl
  | .float (.infinity false) => rfl
  | .float (.finite d) =>
    obtain ⟨c, lead, digit⟩ := leading_toText d
    rw [Json.scalarText, lead, leadingKind_digit digit]
    rfl

/-- A word is the text of one value. -/
lemma scalarText_injective {a b : Json} (scalar : a.opening = none) (scalar' : b.opening = none)
    (eq : a.scalarText = b.scalarText) : a = b := by
  have kinds : a.kind = b.kind := by
    rw [← leadingKind_scalarText scalar, eq, leadingKind_scalarText scalar']
  -- The kinds leave the pairs of finite numbers and of infinities.
  rcases a with _ | (_ | _) | m | (_ | negative | d) | _ | _ | _ <;>
    rcases b with _ | (_ | _) | n | (_ | negative' | d') | _ | _ | _ <;>
    first
    | rfl
    | (cases kinds; done)
    | (cases scalar; done)
    | (cases scalar'; done)
    | skip
  · rw [intText_injective eq]
  · exact absurd eq (intText_ne_toText m d')
  · cases negative <;> cases negative' <;> first | rfl | cases eq
  · exact absurd eq.symm (intText_ne_toText n d)
  · rw [Decimal.toText_injective eq]

/-- A scalar is a word. -/
lemma scalarText_word {a : Json} (scalar : a.opening = none) :
    ∃ c rest, a.scalarText.map Char.toNat = c :: rest ∧ ∀ n ∈ c :: rest, isWordCode n = true := by
  have numbers : ∀ {text : List Char}, text ≠ [] → (∀ c ∈ text, isNumberChar c = true) →
      ∃ c rest, text.map Char.toNat = c :: rest ∧ ∀ n ∈ c :: rest, isWordCode n = true := by
    intro text some all
    cases text with
    | nil => exact absurd rfl some
    | cons c rest =>
      refine ⟨c.toNat, rest.map Char.toNat, rfl, ?_⟩
      intro n mem
      rw [← List.map_cons] at mem
      obtain ⟨c', mem', rfl⟩ := List.mem_map.mp mem
      exact isWordCode_of_number (all c' mem')
  have nonempty : ∀ {text : List Char} {c}, leading text = some c → text ≠ [] := by
    rintro text c lead rfl
    cases lead
  match a with
  | .null => exact ⟨_, _, rfl, by decide⟩
  | .bool true => exact ⟨_, _, rfl, by decide⟩
  | .bool false => exact ⟨_, _, rfl, by decide⟩
  | .int n =>
    obtain ⟨c, lead, -⟩ := leading_intText n
    exact numbers (nonempty lead) (intText_number n)
  | .float .nan => exact ⟨_, _, rfl, by decide⟩
  | .float (.infinity true) => exact ⟨_, _, rfl, by decide⟩
  | .float (.infinity false) => exact ⟨_, _, rfl, by decide⟩
  | .float (.finite d) =>
    obtain ⟨c, lead, -⟩ := leading_toText d
    exact numbers (nonempty lead) (signed_number (magnitudeText_number d.digits d.exponent))

/-- Words that stop where the texts go on are the same. -/
lemma words_split {w w' s t : List ℕ} (word : ∀ n ∈ w, isWordCode n = true)
    (word' : ∀ n ∈ w', isWordCode n = true) (stop : Stops s) (stop' : Stops t)
    (eq : w ++ s = w' ++ t) : w = w' ∧ s = t := by
  have take : ∀ {w s : List ℕ}, (∀ n ∈ w, isWordCode n = true) → Stops s →
      (w ++ s).takeWhile isWordCode = w := by
    intro w s word stop
    rw [List.takeWhile_append_of_pos word]
    cases s with
    | nil => exact List.append_nil w
    | cons c s =>
      rw [List.takeWhile_cons_of_neg (by rw [stop c rfl]; decide), List.append_nil]
  have words : w = w' := by rw [← take word stop, eq, take word' stop']
  rw [words] at eq
  exact ⟨words, List.append_cancel_left eq⟩

end Words

section Trees
variable (l : Layout)

/-- A gap is empty or begins a line. -/
lemma Layout.gap_head (depth : ℕ) : ∀ n ∈ (l.gap depth).head?, n = 10 := by
  cases l with
  | compact =>
    intro n mem
    cases mem
  | indented width =>
    intro n mem
    exact (Option.some.inj mem).symm

/-- Behind a gap stands what the gap begins with, or the first code point after it. -/
lemma gap_append_head (depth : ℕ) {c : ℕ} {rest s : List ℕ} (eq : s = c :: rest) :
    ∃ c' rest', l.gap depth ++ s = c' :: rest' ∧ (c' = 10 ∨ c' = c) := by
  have head := l.gap_head depth
  cases gap : l.gap depth with
  | nil => exact ⟨c, rest, eq, .inr rfl⟩
  | cons n gap' =>
    rw [gap] at head
    exact ⟨n, gap' ++ s, rfl, .inl (head n rfl)⟩

/-- A delimiter ends a word. -/
lemma stops_cons {c : ℕ} (s : List ℕ) (delimiter : isWordCode c = false) : Stops (c :: s) := by
  intro n mem
  rw [← Option.some.inj mem]
  exact delimiter

/-- So does a gap in front of a delimiter. -/
lemma stops_gap (depth : ℕ) {c : ℕ} (s : List ℕ) (delimiter : isWordCode c = false) :
    Stops (l.gap depth ++ [c] ++ s) := by
  rw [List.append_assoc]
  obtain ⟨c', rest, eq, head⟩ := gap_append_head l depth (rfl : [c] ++ s = c :: s)
  rw [eq]
  rcases head with rfl | rfl
  · exact stops_cons rest rfl
  · exact stops_cons rest delimiter

/-- What follows an item ends a word. -/
lemma stops_renderItems (depth : ℕ) (items : List Json) (s : List ℕ) :
    Stops (renderItems l depth items ++ s) := by
  cases items with
  | nil =>
    rw [renderItems]
    exact stops_gap l depth s rfl
  | cons item items =>
    rw [renderItems]
    exact stops_cons _ rfl

/-- So does what follows a field. -/
lemma stops_renderFields (depth : ℕ) (fields : List (PyString × Json)) (s : List ℕ) :
    Stops (renderFields l depth fields ++ s) := by
  cases fields with
  | nil =>
    rw [renderFields]
    exact stops_gap l depth s rfl
  | cons entry fields =>
    rw [renderFields]
    exact stops_cons _ rfl

/-- A scalar is written as its text. -/
lemma render_scalar {a : Json} (scalar : a.opening = none) (depth : ℕ) :
    render l depth a = a.scalarText.map Char.toNat := by
  cases a with
  | null => rw [render]
  | bool b => rw [render]
  | int n => rw [render]
  | float x => rw [render]
  | str s => cases scalar
  | arr items => cases scalar
  | obj fields => cases scalar

/-- The first code point of a text tells what kind of tree it writes. -/
lemma render_head (depth : ℕ) (a : Json) :
    ∃ c rest, render l depth a = c :: rest ∧
      a.opening = if c = 34 ∨ c = 91 ∨ c = 123 then some c else none := by
  cases scalar : a.opening with
  | none =>
    obtain ⟨c, rest, eq, word⟩ := scalarText_word scalar
    refine ⟨c, rest, (render_scalar l scalar depth).trans eq, ?_⟩
    rw [if_neg]
    rintro (rfl | rfl | rfl)
    all_goals cases word _ List.mem_cons_self
  | some opener =>
    match a with
    | .str s =>
      cases scalar
      exact ⟨34, _, by rw [render, quotedCodes], rfl⟩
    | .arr [] =>
      cases scalar
      exact ⟨91, _, by rw [render], rfl⟩
    | .arr (item :: items) =>
      cases scalar
      exact ⟨91, _, by rw [render], rfl⟩
    | .obj [] =>
      cases scalar
      exact ⟨123, _, by rw [render], rfl⟩
    | .obj ((key, value) :: fields) =>
      cases scalar
      exact ⟨123, _, by rw [render], rfl⟩

/-- Values that are written alike open alike. -/
lemma opening_eq {depth depth' : ℕ} {a b : Json} {s t : List ℕ}
    (eq : render l depth a ++ s = render l depth' b ++ t) : a.opening = b.opening := by
  obtain ⟨c, rest, text, kind⟩ := render_head l depth a
  obtain ⟨c', rest', text', kind'⟩ := render_head l depth' b
  rw [text, text'] at eq
  rw [kind, kind', (List.cons.inj eq).1]

/-- No member begins with the bracket or the brace that ends its list or dictionary. -/
lemma member_ne_close (depth : ℕ) {c close : ℕ} {rest s t : List ℕ} (eq : s = c :: rest)
    (other : c ≠ close) (gap : close ≠ 10) : close :: t ≠ l.gap depth ++ s := by
  obtain ⟨c', rest', eq', head⟩ := gap_append_head l depth eq
  rw [eq']
  intro same
  rcases head with rfl | rfl
  · exact gap (List.cons.inj same).1
  · exact other (List.cons.inj same).1.symm

lemma key_ne_close {close : ℕ} {depth : ℕ} {key : PyString} {s t : List ℕ} (other : 34 ≠ close)
    (gap : close ≠ 10) : close :: t ≠ l.gap depth ++ (quotedCodes key ++ s) :=
  member_ne_close l depth (rfl : quotedCodes key ++ s = 34 :: _) other gap

/-- A value does not close a list. -/
lemma value_ne_close {depth depth' : ℕ} {item : Json} {s t : List ℕ} :
    93 :: t ≠ l.gap depth ++ (render l depth' item ++ s) := by
  obtain ⟨c, rest, text, kind⟩ := render_head l depth' item
  have head : render l depth' item ++ s = c :: (rest ++ s) := by rw [text, List.cons_append]
  refine member_ne_close l depth head ?_ (by decide)
  rintro rfl
  -- A bracket that closes is no word and opens nothing.
  obtain ⟨c, rest', text', word⟩ := scalarText_word kind
  rw [render_scalar l kind, text'] at text
  have closing := word c List.mem_cons_self
  rw [(List.cons.inj text).1] at closing
  exact absurd closing (by decide)

/-- Behind a member stands a comma, or the gap and the bracket that end the list. -/
lemma comma_ne_close (depth : ℕ) {close : ℕ} {s t : List ℕ} (other : close ≠ 44) :
    44 :: t ≠ l.gap depth ++ [close] ++ s := by
  rw [List.append_assoc]
  obtain ⟨c', rest', eq', head⟩ := gap_append_head l depth (rfl : [close] ++ s = close :: s)
  rw [eq']
  intro same
  rcases head with rfl | rfl
  · cases (List.cons.inj same).1
  · exact other (List.cons.inj same).1.symm

/-- A scalar ends where its word ends. -/
lemma scalar_split {a b : Json} (scalar : a.opening = none) (depth : ℕ) {s t : List ℕ}
    (stop : Stops s) (stop' : Stops t) (eq : render l depth a ++ s = render l depth b ++ t) :
    a = b ∧ s = t := by
  have scalar' : b.opening = none := (opening_eq l eq).symm.trans scalar
  obtain ⟨c, rest, text, word⟩ := scalarText_word scalar
  obtain ⟨c', rest', text', word'⟩ := scalarText_word scalar'
  rw [render_scalar l scalar, render_scalar l scalar'] at eq
  rw [← text] at word
  rw [← text'] at word'
  obtain ⟨words, rest⟩ := words_split word word' stop stop' eq
  exact ⟨scalarText_injective scalar scalar' (map_toNat_injective words), rest⟩

mutual

/-- A text that begins a longer one ends in one place only, and is the text of one tree. -/
theorem render_split : ∀ (a b : Json) (depth : ℕ) {s t : List ℕ}, Stops s → Stops t →
    render l depth a ++ s = render l depth b ++ t → a = b ∧ s = t
  -- the character that a text begins with gives away what kind of value it is
  | .str k, b, depth, s, t, _, _, eq => by
    have kind := opening_eq l eq
    cases b with
    | str k' =>
      rw [render, render] at eq
      obtain ⟨rfl, rest⟩ := quotedCodes_split eq
      exact ⟨rfl, rest⟩
    | _ => cases kind
  | .arr [], b, depth, s, t, _, _, eq => by
    have kind := opening_eq l eq
    cases b with
    | arr items =>
      cases items with
      | nil => exact ⟨rfl, List.append_cancel_left eq⟩
      | cons item items =>
        rw [render, render] at eq
        simp only [List.cons_append, List.append_assoc] at eq
        exact absurd (List.cons.inj eq).2 (value_ne_close l)
    | _ => cases kind
  | .arr (item :: items), b, depth, s, t, _, _, eq => by
    have kind := opening_eq l eq
    cases b with
    | arr items' =>
      cases items' with
      | nil =>
        rw [render, render] at eq
        simp only [List.cons_append, List.append_assoc] at eq
        exact absurd (List.cons.inj eq).2.symm (value_ne_close l)
      | cons item' items' =>
        rw [render, render] at eq
        simp only [List.cons_append, List.append_assoc] at eq
        obtain ⟨rfl, rest⟩ := render_split item item' (depth + 1)
          (stops_renderItems l depth items s) (stops_renderItems l depth items' t)
          (List.append_cancel_left (List.cons.inj eq).2)
        obtain ⟨rfl, tail⟩ := renderItems_split items items' depth rest
        exact ⟨rfl, tail⟩
    | _ => cases kind
  | .obj [], b, depth, s, t, _, _, eq => by
    have kind := opening_eq l eq
    cases b with
    | obj fields =>
      cases fields with
      | nil => exact ⟨rfl, List.append_cancel_left eq⟩
      | cons entry fields =>
        rw [render, render] at eq
        simp only [List.cons_append, List.append_assoc] at eq
        exact absurd (List.cons.inj eq).2 (key_ne_close l (by decide) (by decide))
    | _ => cases kind
  | .obj ((key, value) :: fields), b, depth, s, t, _, _, eq => by
    have kind := opening_eq l eq
    cases b with
    | obj fields' =>
      cases fields' with
      | nil =>
        rw [render, render] at eq
        simp only [List.cons_append, List.append_assoc] at eq
        exact absurd (List.cons.inj eq).2.symm (key_ne_close l (by decide) (by decide))
      | cons entry fields' =>
        obtain ⟨key', value'⟩ := entry
        rw [render, render] at eq
        simp only [List.cons_append, List.append_assoc] at eq
        obtain ⟨rfl, rest⟩ := quotedCodes_split (List.append_cancel_left (List.cons.inj eq).2)
        obtain ⟨rfl, others⟩ := render_split value value' (depth + 1)
          (stops_renderFields l depth fields s) (stops_renderFields l depth fields' t)
          (List.append_cancel_left rest)
        obtain ⟨rfl, tail⟩ := renderFields_split fields fields' depth others
        exact ⟨rfl, tail⟩
    | _ => cases kind
  -- a scalar ends where no more of its characters follow
  | .null, b, depth, s, t, stop, stop', eq => scalar_split l rfl depth stop stop' eq
  | .bool v, b, depth, s, t, stop, stop', eq => scalar_split l rfl depth stop stop' eq
  | .int n, b, depth, s, t, stop, stop', eq => scalar_split l rfl depth stop stop' eq
  | .float x, b, depth, s, t, stop, stop', eq => scalar_split l rfl depth stop stop' eq

/-- Lists that are written alike are equal, whatever follows. -/
theorem renderItems_split : ∀ (as bs : List Json) (depth : ℕ) {s t : List ℕ},
    renderItems l depth as ++ s = renderItems l depth bs ++ t → as = bs ∧ s = t
  | [], bs, depth, s, t, eq => by
    cases bs with
    | nil => exact ⟨rfl, List.append_cancel_left eq⟩
    | cons b bs =>
      rw [renderItems, renderItems] at eq
      exact absurd eq.symm (comma_ne_close l depth (by decide))
  | a :: as, bs, depth, s, t, eq => by
    cases bs with
    | nil =>
      rw [renderItems, renderItems] at eq
      exact absurd eq (comma_ne_close l depth (by decide))
    | cons b bs =>
      rw [renderItems, renderItems] at eq
      simp only [List.cons_append, List.append_assoc] at eq
      obtain ⟨rfl, rest⟩ := render_split a b (depth + 1) (stops_renderItems l depth as s)
        (stops_renderItems l depth bs t) (List.append_cancel_left (List.cons.inj eq).2)
      obtain ⟨rfl, tail⟩ := renderItems_split as bs depth rest
      exact ⟨rfl, tail⟩

/-- So are fields. -/
theorem renderFields_split : ∀ (as bs : List (PyString × Json)) (depth : ℕ) {s t : List ℕ},
    renderFields l depth as ++ s = renderFields l depth bs ++ t → as = bs ∧ s = t
  | [], bs, depth, s, t, eq => by
    cases bs with
    | nil => exact ⟨rfl, List.append_cancel_left eq⟩
    | cons b bs =>
      rw [renderFields, renderFields] at eq
      exact absurd eq.symm (comma_ne_close l depth (by decide))
  | (key, value) :: as, bs, depth, s, t, eq => by
    cases bs with
    | nil =>
      rw [renderFields, renderFields] at eq
      exact absurd eq (comma_ne_close l depth (by decide))
    | cons b bs =>
      obtain ⟨key', value'⟩ := b
      rw [renderFields, renderFields] at eq
      simp only [List.cons_append, List.append_assoc] at eq
      obtain ⟨rfl, rest⟩ := quotedCodes_split (List.append_cancel_left (List.cons.inj eq).2)
      obtain ⟨rfl, others⟩ := render_split value value' (depth + 1) (stops_renderFields l depth as s)
        (stops_renderFields l depth bs t) (List.append_cancel_left rest)
      obtain ⟨rfl, tail⟩ := renderFields_split as bs depth others
      exact ⟨rfl, tail⟩

end

/-- A text is the text of one tree. -/
theorem render_injective {a b : Json} {depth : ℕ} (eq : render l depth a = render l depth b) :
    a = b := by
  have stop : Stops [] := by
    intro n mem
    cases mem
  refine (render_split l a b depth stop stop ?_).1
  rw [eq]

end Trees

end Jaull.Lib

/-!
## Strings of code points

A Python string is determined by its code points, and any code points make one.
-/

namespace Jaull.Lib

namespace PyString

/-- Surrogates are few. -/
lemma surrogate_lt {c : ℕ} (small : 0xd800 ≤ c ∧ c < 0xe000) : c - 0xd800 < 0x800 := by
  omega

/-- A code point in front of a string. -/
def push (c : ℕ) (s : PyString) : PyString :=
  if small : 0xd800 ≤ c ∧ c < 0xe000 then .surrogate "" ⟨c - 0xd800, surrogate_lt small⟩ s
  else
    match s with
    | .text chars => .text (String.ofList (Char.ofNat c :: chars.toList))
    | .surrogate before code after =>
      .surrogate (String.ofList (Char.ofNat c :: before.toList)) code after

/-- The string of code points. -/
def ofCodes (codes : List ℕ) : PyString :=
  codes.foldr push (.text "")

variable {c : ℕ} {s : PyString}

/-- Any other code point is that of its character. -/
lemma toNat_ofNat_of_range (range : c < 0x110000) (plain : ¬(0xd800 ≤ c ∧ c < 0xe000)) :
    (Char.ofNat c).toNat = c := by
  have valid : c.isValidChar := by
    rw [Nat.isValidChar]
    omega
  rw [Char.ofNat, dif_pos valid]
  rfl

/-- A code point in front of a text. -/
lemma codes_push (range : c < 0x110000) : (push c s).codes = c :: s.codes := by
  unfold push
  split
  · rename_i small
    rw [codes]
    have back : 0xd800 + (c - 0xd800) = c := by omega
    simp only [back, String.toList_empty, List.map_nil, List.nil_append]
  · rename_i plain
    have same := toNat_ofNat_of_range range plain
    cases s with
    | text chars =>
      dsimp only
      rw [codes, codes, String.toList_ofList, List.map_cons, same]
    | surrogate before code after =>
      dsimp only
      rw [codes, codes, String.toList_ofList, List.map_cons, same, List.cons_append]

/-- A text is of the code points it is built from. -/
lemma codes_ofCodes {codes : List ℕ} (range : ∀ c ∈ codes, c < 0x110000) : (ofCodes codes).codes = codes := by
  induction codes with
  | nil => rfl
  | cons c rest ih =>
    have pushed : ofCodes (c :: rest) = push c (ofCodes rest) := rfl
    rw [pushed, codes_push (range c List.mem_cons_self), ih fun d mem => range d (List.mem_cons_of_mem c mem)]

/-- All of them are code points. -/
lemma codes_lt : ∀ {s : PyString}, ∀ c ∈ s.codes, c < 0x110000
  | .text chars, c, mem => by
    obtain ⟨char, -, rfl⟩ := List.mem_map.mp mem
    have valid := char.valid
    rw [UInt32.isValidChar, Nat.isValidChar] at valid
    have same : char.toNat = char.val.toNat := rfl
    omega
  | .surrogate before code after, c, mem => by
    rw [codes, List.mem_append, List.mem_cons] at mem
    rcases mem with mem | rfl | mem
    · exact codes_lt (s := .text before) c mem
    · omega
    · exact codes_lt c mem

end PyString

end Jaull.Lib
