import Jaull.Runtime.MemoryReport
import Mathlib.Data.List.Dedup

/-!
# What attributes a model to a device

A device is concluded on from three readings of one output: the buffers, line by line, the counts of
offloaded layers and the devices that layers were assigned to. The readings of a legible output depend on its
lines only, not on their order.
-/

namespace Jaull.Runtime
open Jaull.Lib Jaull.Text Jaull.Text.Scanner

section Lines

/-- The code points of the line boundaries. -/
def lineBreakCodes : List ℕ :=
  [10, 11, 12, 13, 28, 29, 30, 0x85, 0x2028, 0x2029]

/-- Line breaks are few. -/
lemma toNat_of_isLineBreak {c : Char} (breaks : isLineBreak c = true) : c.toNat ∈ lineBreakCodes := by
  simp only [isLineBreak, Bool.or_eq_true, Bool.and_eq_true, decide_eq_true_eq, beq_iff_eq] at breaks
  simp only [lineBreakCodes, List.mem_cons, List.not_mem_nil]
  omega

/-- A class that none of the boundaries belongs to. -/
lemma notIn_of_codes {p : Char → Bool} (none : ∀ n ∈ lineBreakCodes, p (Char.ofNat n) = false) {c : Char}
    (breaks : isLineBreak c = true) : p c = false := by
  have out := none c.toNat (toNat_of_isLineBreak breaks)
  rw [Char.ofNat_toNat] at out
  exact out

/-- What holds of none of them stays in a line. -/
lemma inLine_of_codes {p : Char → Bool} (none : ∀ n ∈ lineBreakCodes, p (Char.ofNat n) = false) {c : Char}
    (inside : p c = true) : isLineBreak c = false := by
  rw [Bool.eq_false_iff]
  intro breaks
  rw [notIn_of_codes none breaks] at inside
  cases inside

/-- Digits stay in a line. -/
lemma digit_inLine {c : Char} : isDigitChar c = true → isLineBreak c = false :=
  inLine_of_codes (by decide +kernel)

/-- The report of offloaded layers stays in a line. -/
lemma offloadAt_inLine : LineLocal (fun _ => True) offloadAt := by
  have digits : LineLocal (fun _ => True) (some1 isDigitChar) := LineLocal.run fun _ => digit_inLine
  refine (LineLocal.word rfl).seq fun _ => digits.seq fun done => ?_
  refine (LineLocal.word rfl).seq fun _ => digits.seq fun total => ?_
  exact (LineLocal.word rfl).seq fun _ => LineLocal.pure _

/-- A part of a line that, if it begins with `layer`, has more than white space after it. -/
def LayerWhole (part : List Char) : Prop :=
  "layer".toList <+: part → (part.drop "layer".toList.length).any (!isSpace ·) = true

instance (part : List Char) : Decidable (LayerWhole part) :=
  inferInstanceAs (Decidable (_ → _))

/-- So does that of an assigned layer, where its device is read whole. -/
lemma assignedAt_inLine : LineLocal LayerWhole assignedAt := by
  have digits : LineLocal (fun _ => True) (some1 isDigitChar) := LineLocal.run fun _ => digit_inLine
  have letters : LineLocal (fun _ => True) (some1 isAsciiLetter) :=
    LineLocal.run fun _ => inLine_of_codes (by decide)
  have layer : LineLocal (fun _ => True) (literal sameChar "layer".toList) := LineLocal.word rfl
  have blanks : LineLocal (fun rest => rest.any (!isSpace ·) = true) (some1 isSpace) :=
    LineLocal.some1 fun within _ => takeWhile_append_within within
  refine LineLocal.bind ⟨layer.suffix, fun _ => layer.append trivial⟩ ?_ fun _ =>
    blanks.bind (fun _ _ => trivial) fun _ => ?_
  · intro line stop a whole found
    obtain ⟨front, split, pairs⟩ := literal_eq_some found
    have own : "layer".toList = front := by
      apply List.forall₂_eq_eq_eq ▸ pairs.imp fun w c same => of_decide_eq_true same
    rw [split, ← own] at whole
    rw [← @List.drop_left _ "layer".toList stop]
    exact whole (List.prefix_append _ _)
  · refine digits.seq fun _ => (LineLocal.word rfl).seq fun _ => letters.seq fun _ => ?_
    refine (LineLocal.many fun _ => digit_inLine).seq fun _ => ?_
    exact (LineLocal.notBefore fun _ => notIn_of_codes (by decide +kernel)).seq fun _ => LineLocal.pure _

end Lines

section Entries

/-- A line whose buffer, if it reports one, has a label, a number that `float` reads and a size below the bound
of the doubles. -/
def ReadableBuffer (line : List Char) : Prop :=
  ∀ found ∈ bufferIn line, found.what.any (!isSpace ·) = true ∧ isFloatText found.mib = true ∧
    ∀ mib ∈ (floatText found.mib).toOption, mib * mibBytes < overflowBound

instance (line : List Char) : Decidable (ReadableBuffer line) :=
  inferInstanceAs (Decidable (∀ found ∈ bufferIn line, _))

/-- The entry of a buffer that can be printed: its label is a word and its size is that of some bytes. -/
structure Printable (entry : LargestEntry) : Prop where
  label : firstWord (entry.1.1 ++ " " ++ entry.1.2.value) = .ok entry.1.1
  nonneg : 0 ≤ entry.2
  small : entry.2 * mibBytes < overflowBound

/-- The buffer that a line reports. -/
def entryOf (line : List Char) : Option LargestEntry :=
  (readBuffer line).toOption.join

/-- The items of `largest` after the buffers of some lines. -/
def largestOf (entries : List LargestEntry) : List LargestEntry :=
  entries.foldl enter []

variable {line : List Char} {lines : List (List Char)} {entry : LargestEntry} {entries entries' : List LargestEntry}

/-- Words have no white space in them and are not empty. -/
lemma lastWord_eq_ok {text : List Char} (solid : text.any (!isSpace ·) = true) :
    ∃ word, lastWord text = .ok (String.ofList word) ∧ word ≠ [] ∧ ∀ c ∈ word, isSpace c = false := by
  have begins : text.reverse.dropWhile isSpace ≠ [] := by
    intro nil
    obtain ⟨c, mem, out⟩ := List.any_eq_true.mp solid
    rw [List.dropWhile_eq_nil_iff.mp nil c (List.mem_reverse.mpr mem)] at out
    cases out
  obtain ⟨c, rest, eq⟩ := List.exists_cons_of_ne_nil begins
  have out : isSpace c = false := by
    have head := List.head?_dropWhile_not isSpace text.reverse
    rw [eq] at head
    exact head
  have word : (text.reverse.dropWhile isSpace).takeWhile (!isSpace ·) = c :: rest.takeWhile (!isSpace ·) := by
    rw [eq, List.takeWhile_cons, out]
    rfl
  refine ⟨(c :: rest.takeWhile (!isSpace ·)).reverse, ?_, ?_, ?_⟩
  · rw [lastWord, word]
  · exact mt List.reverse_eq_nil_iff.mp (List.cons_ne_nil _ _)
  · intro d mem
    rw [List.mem_reverse, ← word] at mem
    have inside := List.mem_takeWhile_imp mem
    exact Bool.not_eq_true' _ |>.mp inside

/-- The first word of a text that begins with a word. -/
lemma firstWord_append {word : List Char} (some : word ≠ []) (solid : ∀ c ∈ word, isSpace c = false)
    (rest : String) : firstWord (String.ofList word ++ " " ++ rest) = .ok (String.ofList word) := by
  obtain ⟨c, word, rfl⟩ := List.exists_cons_of_ne_nil some
  have split : (String.ofList (c :: word) ++ " " ++ rest).toList = c :: word ++ ' ' :: rest.toList := by
    rw [String.toList_append, String.toList_append, String.toList_ofList, List.append_assoc]
    rfl
  have dropped : (c :: word ++ ' ' :: rest.toList).dropWhile isSpace = c :: word ++ ' ' :: rest.toList := by
    rw [List.cons_append, List.dropWhile_cons, solid c List.mem_cons_self]
    rfl
  have taken : (c :: word ++ ' ' :: rest.toList).takeWhile (!isSpace ·) = c :: word := by
    rw [List.takeWhile_append_of_pos]
    · rw [List.takeWhile_cons, show (!isSpace ' ') = false from by decide]
      exact List.append_nil _
    · intro d mem
      rw [solid d mem]
      rfl
  rw [firstWord, split, dropped, taken]

/-- The double of what is not negative is not negative. -/
lemma nearestDouble_nonneg {q : ℚ} (nonneg : 0 ≤ q) : 0 ≤ nearestDouble q := by
  rw [nearestDouble]
  split
  · exact le_rfl
  · have unit : (0 : ℚ) < 2 ^ max (Int.log 2 |q| - 52) (-1074) := by positivity
    have quotient : -1 < roundHalfEven (q / 2 ^ max (Int.log 2 |q| - 52) (-1074)) := by
      rw [lt_roundHalfEven_iff]
      refine .inl (lt_of_lt_of_le ?_ (div_nonneg nonneg unit.le))
      norm_num
    have whole : (0 : ℚ) ≤ roundHalfEven (q / 2 ^ max (Int.log 2 |q| - 52) (-1074)) := by
      exact_mod_cast Int.add_one_le_of_lt quotient
    exact mul_nonneg whole unit.le

/-- A number that `float` reads is no less than zero. -/
lemma floatText_eq_ok {number : List Char} (reads : isFloatText number = true) :
    ∃ mib, floatText number = .ok mib ∧ 0 ≤ mib := by
  rw [floatText, if_pos reads]
  refine ⟨_, rfl, ?_⟩
  rw [boundedDouble]
  split
  · exact Nat.cast_nonneg _
  · apply nearestDouble_nonneg
    positivity

/-- A readable line is read, and a buffer in it can be printed. -/
lemma ReadableBuffer.read (readable : ReadableBuffer line) :
    readBuffer line = .ok (entryOf line) ∧ ∀ entry ∈ entryOf line, Printable entry := by
  have goal : ∃ read, readBuffer line = .ok read ∧ ∀ entry ∈ read, Printable entry := by
    rw [readBuffer]
    cases found : bufferIn line with
    | none =>
      refine ⟨none, rfl, ?_⟩
      intro entry mem
      cases mem
    | some found' =>
      obtain ⟨solid, reads, small⟩ := readable found' found
      obtain ⟨word, last, some, solid⟩ := lastWord_eq_ok solid
      obtain ⟨mib, float, nonneg⟩ := floatText_eq_ok reads
      refine ⟨.some ((String.ofList word, found'.kind), mib), ?_, ?_⟩
      · dsimp only
        rw [last, ok_bind, float]
        rfl
      · intro entry mem
        cases mem
        exact ⟨firstWord_append some solid _, nonneg, small mib (by rw [float]; rfl)⟩
  obtain ⟨read, eq, printable⟩ := goal
  have own : entryOf line = read := by
    rw [entryOf, eq]
    cases read with
    | none => rfl
    | some => rfl
  rw [own]
  exact ⟨eq, printable⟩

/-- The loop over readable lines enters their buffers. -/
lemma foldlM_enterLine (readable : ∀ line ∈ lines, ReadableBuffer line) (largest : List LargestEntry) :
    lines.foldlM enterLine largest = .ok ((lines.filterMap entryOf).foldl enter largest) := by
  induction lines generalizing largest with
  | nil => rfl
  | cons line lines ih =>
    have later := ih fun line mem => readable line (List.mem_cons_of_mem _ mem)
    rw [List.foldlM_cons, enterLine, (readable line List.mem_cons_self).read.1, ok_bind]
    cases own : entryOf line with
    | none =>
      rw [List.filterMap_cons_none own]
      exact later largest
    | some entry =>
      rw [List.filterMap_cons_some own, List.foldl_cons]
      exact later (enter largest entry)

/-- Entering a buffer is keeping the larger of two versions. -/
lemma enter_eq (nonneg : 0 ≤ entry.2) (largest : List LargestEntry)
    (conflicts : List (String × RuntimeBufferCategory)) :
    enter largest entry =
      (collect Prod.fst id (fun entry => OrderDual.toDual entry.2) (largest, conflicts) entry).1 := by
  rw [enter, collect]
  cases found : largest.find? (·.1 = entry.1) with
  | none =>
    dsimp only
    rw [max_eq_right nonneg]
  | some known =>
    have same : known.1 = entry.1 := by simpa using List.find?_some found
    dsimp only
    congr 1
    funext other
    split
    · split
      · rename_i eq
        rw [show known = entry from eq, max_self]
      · rw [leastOf]
        split
        · rename_i lt
          rw [max_eq_right (OrderDual.toDual_lt_toDual.mp lt).le]
        · rename_i le
          rw [max_eq_left (not_lt.mp (mt OrderDual.toDual_lt_toDual.mpr le)), ← same]
    · rfl

/-- The items of `largest` are the largest versions of the buffers. -/
lemma foldl_enter_eq (nonneg : ∀ entry ∈ entries, 0 ≤ entry.2) (known : List LargestEntry × List _) :
    entries.foldl enter known.1 =
      (entries.foldl (collect Prod.fst id fun entry => OrderDual.toDual entry.2) known).1 := by
  induction entries generalizing known with
  | nil => rfl
  | cons entry entries ih =>
    rw [List.foldl_cons, List.foldl_cons, enter_eq (nonneg entry List.mem_cons_self) known.1 known.2]
    exact ih (fun entry mem => nonneg entry (List.mem_cons_of_mem _ mem)) _

/-- What `largest` holds of the buffers of some lines. -/
structure Largest (entries largest : List LargestEntry) : Prop where
  sub : largest ⊆ entries
  keys : (largest.map Prod.fst).Nodup
  covers : ∀ entry ∈ entries, ∃ kept ∈ largest, kept.1 = entry.1 ∧ entry.2 ≤ kept.2

/-- The largest entries are the largest. -/
lemma largest_largestOf (nonneg : ∀ entry ∈ entries, 0 ≤ entry.2) : Largest entries (largestOf entries) := by
  have collected := collected_foldl Prod.fst id (fun entry : LargestEntry => OrderDual.toDual entry.2) entries
  have least := @leastKept_foldl _ _ _ _ _ _ _ Prod.fst id
    (fun entry : LargestEntry => OrderDual.toDual entry.2) entries fun _ _ _ _ eq => eq
  rw [largestOf, foldl_enter_eq nonneg ([], [])]
  refine ⟨collected.sub, collected.keys, ?_⟩
  intro entry mem
  obtain ⟨kept, memK, same⟩ := collected.covers entry mem
  exact ⟨kept, memK, same, OrderDual.toDual_le_toDual.mp (least kept memK entry mem same.symm)⟩

/-- The order of the lines does not matter to the items of `largest`, only to their order. -/
lemma largestOf_perm (nonneg : ∀ entry ∈ entries, 0 ≤ entry.2) (perm : entries'.Perm entries) :
    (largestOf entries').Perm (largestOf entries) := by
  have nonneg' : ∀ entry ∈ entries', 0 ≤ entry.2 := fun entry mem => nonneg entry (perm.subset mem)
  rw [largestOf, largestOf, foldl_enter_eq nonneg ([], []), foldl_enter_eq nonneg' ([], [])]
  apply collect_perm
  · intro a _ b _ eq
    exact eq
  · intro a _ b _ keys ranks
    exact Prod.ext keys (OrderDual.toDual_inj.mp ranks)
  · intro a
    exact perm.mem_iff

end Entries

section Allocation
variable {largest largest' : List LargestEntry} {entry : LargestEntry}

lemma RuntimeBufferCategory.value_injective : Function.Injective RuntimeBufferCategory.value := by
  intro a b eq
  cases a <;> cases b <;> first | rfl | (exact absurd eq (by decide))

/-- Entries of different places sort apart. -/
lemma entryKey_nodup (keys : (largest.map Prod.fst).Nodup) : (largest.map entryKey).Nodup := by
  have factors : largest.map entryKey =
      (largest.map Prod.fst).map fun key => toLex (key.1, RuntimeBufferCategory.value key.2) := by
    rw [List.map_map]
    rfl
  rw [factors]
  apply keys.map
  intro a b eq
  obtain ⟨labels, values⟩ := Prod.mk.inj (toLex_inj.mp eq)
  exact Prod.ext labels (RuntimeBufferCategory.value_injective values)

/-- The allocation does not depend on the order of the items of `largest`. -/
lemma allocationOf_perm (perm : largest'.Perm largest) (keys : (largest.map Prod.fst).Nodup)
    (runtimeBuild : Option String) : allocationOf largest' runtimeBuild = allocationOf largest runtimeBuild := by
  have devices : reportedDevice largest' = reportedDevice largest := by
    rw [reportedDevice, reportedDevice]
    have same : (((largest'.map (·.1.1)).filter isDeviceLabel).dedup).Perm
        (((largest.map (·.1.1)).filter isDeviceLabel).dedup) := ((perm.map _).filter _).dedup
    have nodup := List.nodup_dedup ((largest.map (·.1.1)).filter isDeviceLabel)
    rw [sortedBy_eq_of_perm same (by rw [List.map_id]; exact nodup)]
  have empty : largest' = [] ↔ largest = [] := by
    rw [← List.length_eq_zero_iff, ← List.length_eq_zero_iff, perm.length_eq]
  rw [allocationOf, allocationOf, sortedBy_eq_of_perm perm (entryKey_nodup keys), devices]
  simp only [empty]

/-- The buffer of an item that can be printed. -/
lemma Printable.buffer (printable : Printable entry) :
    ∃ buffer, bufferOf entry = .ok buffer ∧ labelled buffer = .ok (entry.1.1, buffer) := by
  refine ⟨⟨entry.1.2, bufferLocation entry.1.1, (roundHalfEven (entry.2 * mibBytes)).toNat,
    entry.1.1 ++ " " ++ entry.1.2.value⟩, ?_, ?_⟩
  · rw [bufferOf, roundedBytes, if_neg (not_le.mpr printable.small)]
    rfl
  · rw [labelled, printable.label]
    rfl

/-- The allocation of printable entries: their buffers, sorted. -/
lemma allocationOf_eq_ok (printable : ∀ entry ∈ largest, Printable entry) (runtimeBuild : Option String) :
    ∃ allocation, allocationOf largest runtimeBuild = .ok allocation ∧
      (∀ reported ∈ allocation, List.Forall₂ (fun entry buffer => bufferOf entry = .ok buffer)
        (sortedBy entryKey largest) reported.buffers) ∧ (allocation = none → largest = []) := by
  rw [allocationOf]
  split
  · rename_i empty
    exact ⟨none, rfl, fun reported mem => (by cases mem), fun _ => empty⟩
  · obtain ⟨buffers, -, run, -⟩ := @mapM_forall₂ _ _ _ _ bufferOf bufferOf (fun _ _ => True)
      (sortedBy entryKey largest) (by
        intro entry mem
        obtain ⟨buffer, eq, -⟩ := (printable entry (mem_sortedBy.mp mem)).buffer
        exact ⟨buffer, buffer, eq, eq, trivial⟩)
    rw [run, ok_bind]
    refine ⟨_, rfl, ?_, ?_⟩
    · intro reported mem
      cases mem
      exact mapM_eq_ok_iff.mp run
    · intro eq
      cases eq

/-- More of a buffer is no less to print. -/
lemma roundedBytes_pos {mib mib' : ℚ} {bytes bytes' : ℕ} (le : mib ≤ mib') (rounded : roundedBytes mib = .ok bytes)
    (rounded' : roundedBytes mib' = .ok bytes') (positive : 0 < bytes) : 0 < bytes' := by
  have value : ∀ {mib : ℚ} {bytes : ℕ}, roundedBytes mib = .ok bytes →
      (0 < bytes ↔ PastHalf 0 (mib * mibBytes)) := by
    intro mib bytes rounded
    rw [roundedBytes] at rounded
    split at rounded
    · cases rounded
    · cases rounded
      rw [← lt_roundHalfEven_iff]
      omega
  have more : mib * mibBytes ≤ mib' * mibBytes := mul_le_mul_of_nonneg_right le (Nat.cast_nonneg _)
  rw [value rounded] at positive
  rw [value rounded']
  rcases positive with past | ⟨-, odd⟩
  · exact .inl (past.trans_le more)
  · cases odd

end Allocation

section Attribution
variable {positive : List (String × RuntimeBuffer)} {offloads offloads' : List (ℕ × ℕ)}
variable {assigned assigned' : List String} {device : String}

/-- Only the sets of counts and of assignments matter. -/
lemma attributedDevice_congr (counts : ∀ pair, pair ∈ offloads' ↔ pair ∈ offloads)
    (others : ∀ other, other ∈ assigned' ↔ other ∈ assigned) :
    attributedDevice positive offloads' assigned' = attributedDevice positive offloads assigned := by
  have nil : ∀ {α : Type} {l l' : List α}, (∀ a, a ∈ l' ↔ a ∈ l) → (l' ≠ [] ↔ l ≠ []) := by
    intro α l l' same
    rw [ne_eq, ne_eq, List.eq_nil_iff_forall_not_mem, List.eq_nil_iff_forall_not_mem]
    simp only [same]
  rw [attributedDevice, attributedDevice]
  simp only [counts, others, nil counts, nil others]

/-- A kind of buffer is there when one of its entries is. -/
lemma mem_kindsWhere {p : String → Bool} {category : RuntimeBufferCategory} :
    category ∈ kindsWhere p positive ↔ ∃ entry ∈ positive, p entry.1 = true ∧ entry.2.category = category := by
  rw [kindsWhere, List.mem_map]
  constructor
  · intro found
    obtain ⟨entry, mem, eq⟩ := found
    exact ⟨entry, (List.mem_filter.mp mem).1, (List.mem_filter.mp mem).2, eq⟩
  · intro found
    obtain ⟨entry, mem, holds, eq⟩ := found
    exact ⟨entry, List.mem_filter.mpr ⟨mem, holds⟩, eq⟩

/-- A device other than the processor is concluded on for these reasons. -/
lemma attributedDevice_eq_some (attributed : attributedDevice positive offloads assigned = some device)
    (apart : device ≠ "CPU") :
    (∀ label, (∃ entry ∈ positive, entry.2.location = .device ∧ entry.1 = label) ↔ label = device) ∧
      .model ∈ kindsWhere (· = device) positive ∧ .compute ∈ kindsWhere (· = device) positive ∧
      (∀ counts ∈ offloads, 0 < counts.1 ∧ counts.1 ≤ counts.2) ∧
      ∀ other ∈ assigned, other = device ∨ other = "CPU" := by
  rw [attributedDevice] at attributed
  split at attributed
  · rename_i only devices
    dsimp only at attributed
    split at attributed
    · rename_i reasons
      cases attributed
      refine ⟨?_, reasons⟩
      intro label
      have members : label ∈ ((positive.filter (·.2.location = .device)).map (·.1)).dedup ↔ label = device := by
        rw [devices, List.mem_singleton]
      rw [← members, List.mem_dedup, List.mem_map]
      simp only [List.mem_filter, decide_eq_true_eq, and_assoc]
    · cases attributed
  · split at attributed
    · cases attributed
    · dsimp only at attributed
      split at attributed
      · cases attributed
        exact absurd rfl apart
      · cases attributed

end Attribution

section Output
variable {output other : String} {device : String}

/-- An output that nothing in the three readings trips over: its buffers are readable, its counts of layers are
no longer than Python's `int` reads, and no line breaks off after `layer`. -/
structure Legible (output : String) : Prop where
  buffers : ∀ line ∈ splitLines output, ReadableBuffer line
  offloads : ∀ line ∈ splitLines output, ∀ counts ∈ findAll offloadAt 0 line,
    counts.1.length ≤ maxIntDigits ∧ counts.2.length ≤ maxIntDigits
  layers : ∀ line ∈ splitLines output, ∀ part ∈ line.tails, LayerWhole part

instance (output : String) : Decidable (Legible output) :=
  decidable_of_iff
    ((∀ line ∈ splitLines output, ReadableBuffer line) ∧
      (∀ line ∈ splitLines output, ∀ counts ∈ findAll offloadAt 0 line,
        counts.1.length ≤ maxIntDigits ∧ counts.2.length ≤ maxIntDigits) ∧
      ∀ line ∈ splitLines output, ∀ part ∈ line.tails, LayerWhole part)
    ⟨fun holds => ⟨holds.1, holds.2.1, holds.2.2⟩, fun legible => ⟨legible.buffers, legible.offloads, legible.layers⟩⟩

/-- A line reports a buffer of a label and a category that is not empty. -/
def ReportsPositive (line : List Char) (label : String) (category : RuntimeBufferCategory) : Prop :=
  ∃ mib bytes, readBuffer line = .ok (some ((label, category), mib)) ∧ roundedBytes mib = .ok bytes ∧ 0 < bytes

/-- The lines of an output attribute its model to a device. -/
structure DeviceEvidence (output device : String) : Prop where
  labelled : isDeviceLabel device = true
  only : ∀ line ∈ splitLines output, ∀ label category, ReportsPositive line label category →
    isDeviceLabel label = true → label = device
  model : ∃ line ∈ splitLines output, ReportsPositive line device .model
  compute : ∃ line ∈ splitLines output, ReportsPositive line device .compute
  offloads : ∀ line ∈ splitLines output, ∀ counts ∈ findAll offloadAt 0 line,
    0 < decimalValue counts.1 ∧ decimalValue counts.1 ≤ decimalValue counts.2
  assigned : ∀ line ∈ splitLines output, ∀ other ∈ findAll assignedAt 0 line, other = device ∨ other = "CPU"

/-- The buffers of the lines of an output. -/
def entriesOf (output : String) : List LargestEntry :=
  (splitLines output).filterMap entryOf

/-- Legibility is about the lines. -/
lemma Legible.perm (legible : Legible output) (perm : (splitLines other).Perm (splitLines output)) :
    Legible other where
  buffers := fun line mem => legible.buffers line (perm.subset mem)
  offloads := fun line mem => legible.offloads line (perm.subset mem)
  layers := fun line mem => legible.layers line (perm.subset mem)

/-- The entries of a legible output can be printed. -/
lemma Legible.printable (legible : Legible output) : ∀ entry ∈ entriesOf output, Printable entry := by
  intro entry mem
  obtain ⟨line, memL, own⟩ := List.mem_filterMap.mp mem
  exact (legible.buffers line memL).read.2 entry own

/-- None of them is negative. -/
lemma Legible.nonneg (legible : Legible output) : ∀ entry ∈ entriesOf output, 0 ≤ entry.2 :=
  fun entry mem => (legible.printable entry mem).nonneg

/-- The largest of them are the largest. -/
lemma Legible.largest (legible : Legible output) : Largest (entriesOf output) (largestOf (entriesOf output)) :=
  largest_largestOf legible.nonneg

/-- A legible output is parsed to the allocation of these. -/
lemma Legible.parse_eq (legible : Legible output) (runtimeBuild : Option String) :
    parseLlamaCppAllocation output runtimeBuild = allocationOf (largestOf (entriesOf output)) runtimeBuild := by
  rw [parseLlamaCppAllocation, foldlM_enterLine legible.buffers [], ok_bind]
  rfl

/-- The allocation depends on the lines only. -/
lemma Legible.parse_perm (legible : Legible output) (perm : (splitLines other).Perm (splitLines output))
    (runtimeBuild : Option String) :
    parseLlamaCppAllocation other runtimeBuild = parseLlamaCppAllocation output runtimeBuild := by
  rw [legible.parse_eq, (legible.perm perm).parse_eq]
  exact allocationOf_perm (largestOf_perm legible.nonneg (perm.filterMap entryOf)) legible.largest.keys runtimeBuild

/-- Offloaded layers are found line by line. -/
lemma findAll_offloadAt (output : String) :
    findAll offloadAt 0 output.toList = (splitLines output).flatMap (findAll offloadAt 0) :=
  findAll_splitLines offloadAt_inLine ⟨trivial, rfl⟩ fun _ _ _ _ => trivial

/-- In a legible output so are assigned layers. -/
lemma Legible.assigned (legible : Legible output) :
    findAll assignedAt 0 output.toList = (splitLines output).flatMap (findAll assignedAt 0) := by
  refine findAll_splitLines assignedAt_inLine ⟨?_, rfl⟩ ?_
  · intro begins
    exact absurd (List.prefix_nil.mp begins) (by decide)
  · intro line mem part suffix
    exact legible.layers line mem part ((List.mem_tails _ _).mpr suffix)

/-- The counts of a legible output are read. -/
lemma Legible.counts (legible : Legible output) : ∃ offloads,
    (findAll offloadAt 0 output.toList).mapM layerCounts = .ok offloads ∧
      ∀ pair, pair ∈ offloads ↔ ∃ line ∈ splitLines output, ∃ counts ∈ findAll offloadAt 0 line,
        pair = (decimalValue counts.1, decimalValue counts.2) := by
  have read : ∀ counts ∈ findAll offloadAt 0 output.toList,
      layerCounts counts = .ok (decimalValue counts.1, decimalValue counts.2) := by
    intro counts mem
    rw [findAll_offloadAt] at mem
    obtain ⟨line, memL, memC⟩ := List.mem_flatMap.mp mem
    obtain ⟨done, total⟩ := legible.offloads line memL counts memC
    rw [layerCounts, parseInt_eq_ok.mpr ⟨done, rfl⟩, parseInt_eq_ok.mpr ⟨total, rfl⟩]
  obtain ⟨offloads, -, run, -, -⟩ := @mapM_forall₂ _ _ _ _ layerCounts layerCounts (fun _ _ => True)
    (findAll offloadAt 0 output.toList) fun counts mem => ⟨_, _, read counts mem, read counts mem, trivial⟩
  refine ⟨offloads, run, ?_⟩
  intro pair
  rw [mem_mapM_ok_iff run, findAll_offloadAt]
  constructor
  · intro found
    obtain ⟨counts, mem, eq⟩ := found
    obtain ⟨line, memL, memC⟩ := List.mem_flatMap.mp mem
    rw [read counts (findAll_offloadAt output ▸ mem)] at eq
    exact ⟨line, memL, counts, memC, (Except.ok.inj eq).symm⟩
  · intro found
    obtain ⟨line, memL, counts, memC, rfl⟩ := found
    have mem := List.mem_flatMap.mpr ⟨line, memL, memC⟩
    exact ⟨counts, mem, read counts (findAll_offloadAt output ▸ mem)⟩

/-- A legible output has an allocation or none. -/
lemma Legible.parse (legible : Legible output) (runtimeBuild : Option String) :
    ∃ allocation, parseLlamaCppAllocation output runtimeBuild = .ok allocation := by
  have printable : ∀ entry ∈ largestOf (entriesOf output), Printable entry :=
    fun entry mem => legible.printable entry (legible.largest.sub mem)
  obtain ⟨allocation, eq, -, -⟩ := allocationOf_eq_ok printable runtimeBuild
  exact ⟨allocation, (legible.parse_eq runtimeBuild).trans eq⟩

/-- The positive buffers of an allocation, with their labels. -/
lemma Legible.positive (legible : Legible output) {allocation : RuntimeReportedAllocation}
    (parsed : parseLlamaCppAllocation output none = .ok (some allocation)) : ∃ positive,
    (allocation.buffers.filter (0 < ·.bytes)).mapM labelled = .ok positive ∧
      ∀ entry, entry ∈ positive ↔ ∃ item ∈ largestOf (entriesOf output),
        bufferOf item = .ok entry.2 ∧ 0 < entry.2.bytes ∧ item.1.1 = entry.1 := by
  have printable : ∀ entry ∈ largestOf (entriesOf output), Printable entry :=
    fun entry mem => legible.printable entry (legible.largest.sub mem)
  obtain ⟨parsed', eq, buffers, -⟩ := allocationOf_eq_ok printable none
  rw [legible.parse_eq, eq] at parsed
  cases parsed
  have run := mapM_eq_ok_iff.mpr (buffers allocation rfl)
  have buffer : ∀ {buffer}, buffer ∈ allocation.buffers ↔
      ∃ item ∈ largestOf (entriesOf output), bufferOf item = .ok buffer := by
    intro buffer
    rw [mem_mapM_ok_iff run]
    simp only [mem_sortedBy]
  have label : ∀ {item buffer}, item ∈ largestOf (entriesOf output) → bufferOf item = .ok buffer →
      labelled buffer = .ok (item.1.1, buffer) := by
    intro item buffer mem own
    obtain ⟨buffer', own', labels⟩ := (printable item mem).buffer
    cases own.symm.trans own'
    exact labels
  have all : ∀ buffer ∈ allocation.buffers.filter (0 < ·.bytes), ∃ entry entry' : String × RuntimeBuffer,
      labelled buffer = .ok entry ∧ labelled buffer = .ok entry' ∧ True := by
    intro b mem
    obtain ⟨item, memI, own⟩ := buffer.mp (List.mem_filter.mp mem).1
    exact ⟨_, _, label memI own, label memI own, trivial⟩
  obtain ⟨positive, -, labels, -, -⟩ := mapM_forall₂ all
  refine ⟨positive, labels, ?_⟩
  intro entry
  rw [mem_mapM_ok_iff labels]
  constructor
  · intro found
    obtain ⟨b, mem, own⟩ := found
    obtain ⟨memB, positive⟩ := List.mem_filter.mp mem
    obtain ⟨item, memI, ownB⟩ := buffer.mp memB
    cases (label memI ownB).symm.trans own
    exact ⟨item, memI, ownB, of_decide_eq_true positive, rfl⟩
  · intro found
    obtain ⟨item, memI, own, positive, eq⟩ := found
    refine ⟨entry.2, List.mem_filter.mpr ⟨buffer.mpr ⟨item, memI, own⟩, decide_eq_true positive⟩, ?_⟩
    rw [label memI own, eq]

/-- The observation of an allocation. -/
lemma observed_eq {allocation : RuntimeReportedAllocation} {positive : List (String × RuntimeBuffer)}
    {offloads : List (ℕ × ℕ)} (parsed : parseLlamaCppAllocation output none = .ok (some allocation))
    (labels : (allocation.buffers.filter (0 < ·.bytes)).mapM labelled = .ok positive)
    (counts : (findAll offloadAt 0 output.toList).mapM layerCounts = .ok offloads) :
    observedLlamaCppDevice output =
      .ok (attributedDevice positive offloads (findAll assignedAt 0 output.toList)) := by
  rw [observedLlamaCppDevice, parsed, ok_bind]
  dsimp only
  rw [labels, ok_bind, counts]
  rfl

/-- Without an allocation nothing is observed. -/
lemma observed_none (parsed : parseLlamaCppAllocation output none = .ok none) :
    observedLlamaCppDevice output = .ok none := by
  rw [observedLlamaCppDevice, parsed]
  rfl

/-- The device depends on the lines only. -/
lemma Legible.observed_perm (legible : Legible output) (perm : (splitLines other).Perm (splitLines output)) :
    observedLlamaCppDevice other = observedLlamaCppDevice output := by
  obtain ⟨allocation, parsed⟩ := legible.parse none
  have parsed' := (legible.parse_perm perm none).trans parsed
  cases allocation with
  | none => rw [observed_none parsed, observed_none parsed']
  | some allocation =>
    obtain ⟨positive, labels, -⟩ := legible.positive parsed
    obtain ⟨offloads, run, counts⟩ := legible.counts
    obtain ⟨offloads', run', counts'⟩ := (legible.perm perm).counts
    rw [observed_eq parsed labels run, observed_eq parsed' labels run']
    congr 1
    apply attributedDevice_congr
    · intro pair
      rw [counts, counts']
      simp only [perm.mem_iff]
    · intro device
      rw [legible.assigned, (legible.perm perm).assigned, List.mem_flatMap, List.mem_flatMap]
      simp only [perm.mem_iff]

/-- A positive buffer was reported by a line. -/
lemma Legible.reports (legible : Legible output) {item : LargestEntry} {buffer : RuntimeBuffer}
    (mem : item ∈ largestOf (entriesOf output)) (own : bufferOf item = .ok buffer) (positive : 0 < buffer.bytes) :
    ∃ line ∈ splitLines output, ReportsPositive line item.1.1 buffer.category := by
  obtain ⟨line, memL, reads⟩ := List.mem_filterMap.mp (legible.largest.sub mem)
  obtain ⟨bytes, rounded, eq⟩ := bind_eq_ok.mp own
  cases eq
  refine ⟨line, memL, item.2, bytes, ?_, rounded, positive⟩
  rw [(legible.buffers line memL).read.1, reads]

/-- What a line reports is in a positive buffer of its label. -/
lemma Legible.reported (legible : Legible output) {line : List Char} {label : String}
    {category : RuntimeBufferCategory} (mem : line ∈ splitLines output)
    (reports : ReportsPositive line label category) :
    ∃ item ∈ largestOf (entriesOf output), ∃ buffer, bufferOf item = .ok buffer ∧ 0 < buffer.bytes ∧
      item.1.1 = label := by
  obtain ⟨mib, bytes, reads, rounded, positive⟩ := reports
  have own : entryOf line = some ((label, category), mib) := by
    rw [entryOf, reads]
    rfl
  obtain ⟨kept, memK, same, le⟩ := legible.largest.covers _ (List.mem_filterMap.mpr ⟨line, mem, own⟩)
  obtain ⟨buffer, ownB, -⟩ := (legible.printable kept (legible.largest.sub memK)).buffer
  obtain ⟨bytes', rounded', eq⟩ := bind_eq_ok.mp ownB
  refine ⟨kept, memK, buffer, ownB, ?_, congrArg Prod.fst same⟩
  cases eq
  exact roundedBytes_pos le rounded rounded' positive

/-- A buffer is where its label says. -/
lemma bufferOf_location {item : LargestEntry} {buffer : RuntimeBuffer} (own : bufferOf item = .ok buffer) :
    buffer.location = bufferLocation item.1.1 := by
  obtain ⟨bytes, -, eq⟩ := bind_eq_ok.mp own
  cases eq
  rfl

/-- A device label is one of the device. -/
lemma bufferLocation_eq_device {label : String} :
    bufferLocation label = .device ↔ isDeviceLabel label = true := by
  rw [bufferLocation]
  split
  · rename_i isDevice
    exact iff_of_true rfl isDevice
  · rename_i isHost
    exact iff_of_false (by intro eq; cases eq) isHost

/-- The device that a legible output is attributed to has the evidence of its lines. -/
lemma Legible.evidence (legible : Legible output) (observed : observedLlamaCppDevice output = .ok (some device))
    (apart : device ≠ "CPU") : DeviceEvidence output device := by
  obtain ⟨allocation, parsed⟩ := legible.parse none
  cases allocation with
  | none =>
    rw [observed_none parsed] at observed
    cases observed
  | some allocation =>
    obtain ⟨positive, labels, entries⟩ := legible.positive parsed
    obtain ⟨offloads, run, counts⟩ := legible.counts
    rw [observed_eq parsed labels run] at observed
    obtain ⟨devices, model, compute, offloaded, assigned⟩ :=
      attributedDevice_eq_some (Except.ok.inj observed) apart
    -- each entry of the allocation was reported in a line
    have kind : ∀ {category}, category ∈ kindsWhere (· = device) positive →
        ∃ line ∈ splitLines output, ReportsPositive line device category := by
      intro category mem
      obtain ⟨entry, memE, label, rfl⟩ := mem_kindsWhere.mp mem
      obtain ⟨item, memI, own, more, same⟩ := (entries entry).mp memE
      rw [← of_decide_eq_true label, ← same]
      exact legible.reports memI own more
    refine ⟨?_, ?_, kind model, kind compute, ?_, ?_⟩
    · obtain ⟨entry, memE, location, label⟩ := (devices device).mpr rfl
      obtain ⟨item, -, own, -, same⟩ := (entries entry).mp memE
      rw [← label, ← same, ← bufferLocation_eq_device, ← bufferOf_location own]
      exact location
    · intro line memL label category reports isDevice
      obtain ⟨item, memI, buffer, own, more, same⟩ := legible.reported memL reports
      refine (devices label).mp ⟨(label, buffer), (entries _).mpr ⟨item, memI, own, more, same⟩, ?_, rfl⟩
      rw [bufferOf_location own, same]
      exact bufferLocation_eq_device.mpr isDevice
    · intro line memL pair memP
      exact offloaded _ ((counts _).mpr ⟨line, memL, pair, memP, rfl⟩)
    · intro line memL other memO
      apply assigned other
      rw [legible.assigned]
      exact List.mem_flatMap.mpr ⟨line, memL, memO⟩

/-- The readings of a legible output raise nothing and depend on the multiset of its lines, and a device other
than the processor is concluded on from the evidence of its lines. -/
theorem observedLlamaCppDevice_evidence {output : String} (legible : Legible output) :
    (∀ runtimeBuild, ∃ allocation, parseLlamaCppAllocation output runtimeBuild = .ok allocation) ∧
      (∃ device, observedLlamaCppDevice output = .ok device) ∧
      (∀ other, (splitLines other).Perm (splitLines output) →
        (∀ runtimeBuild,
          parseLlamaCppAllocation other runtimeBuild = parseLlamaCppAllocation output runtimeBuild) ∧
        observedLlamaCppDevice other = observedLlamaCppDevice output) ∧
      ∀ device, observedLlamaCppDevice output = .ok (some device) → device ≠ "CPU" →
        DeviceEvidence output device := by
  refine ⟨legible.parse, ?_, ?_, ?_⟩
  · obtain ⟨allocation, parsed⟩ := legible.parse none
    cases allocation with
    | none => exact ⟨none, observed_none parsed⟩
    | some allocation =>
      obtain ⟨positive, labels, -⟩ := legible.positive parsed
      obtain ⟨offloads, run, -⟩ := legible.counts
      exact ⟨_, observed_eq parsed labels run⟩
  · intro other perm
    exact ⟨legible.parse_perm perm, legible.observed_perm perm⟩
  · intro device observed apart
    exact legible.evidence observed apart

/-- The buffers of a model on one card. -/
def cardBuffers : String :=
  "CUDA0 model buffer size=1MiB\nCUDA0 compute buffer size=1MiB\n"

/-- The buffers of the example are evidence for the card. -/
theorem cardBuffers_evidence : DeviceEvidence (cardBuffers ++ "offloaded 2/2 layers to GPU") "CUDA0" :=
  (observedLlamaCppDevice_evidence (by decide +kernel)).2.2.2 "CUDA0" (by decide +kernel) (by decide)

/-- A buffer without a label raises, a line that breaks off after `layer` runs into the next one, and layers on
the processor do not count against a device. -/
theorem untrustedLines_misread :
    observedLlamaCppDevice "  model buffer size=1MiB" = .error .index ∧
      (splitLines (cardBuffers ++ "layer\n3 assigned to device B")).Perm
        (splitLines (cardBuffers ++ "3 assigned to device B\nlayer")) ∧
      observedLlamaCppDevice (cardBuffers ++ "layer\n3 assigned to device B") = .ok none ∧
      observedLlamaCppDevice (cardBuffers ++ "3 assigned to device B\nlayer") = .ok (some "CUDA0") ∧
      observedLlamaCppDevice (cardBuffers ++ "layer 3 assigned to device CPU") = .ok (some "CUDA0") ∧
      findAll assignedAt 0 "layer 3 assigned to device CPU".toList = ["CPU"] := by
  decide +kernel

end Output

end Jaull.Runtime
