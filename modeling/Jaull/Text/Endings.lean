import Jaull.Text.Case
import Mathlib.Data.List.Induction

/-!
# Endings in small letters

When the small form of a text ends in a word of ASCII characters, the text ends in as many characters, each of
which is a letter of the word in either case. No character outside ASCII has such a small form, apart from the
Kelvin sign and a dotted capital.
-/

namespace Jaull.Text

variable {α β : Type}

/-- A list whose image ends in a word of letters that stand alone in the images they are in. -/
lemma exists_ending {f : α → List β} {plain : β → Prop} (full : ∀ a, f a ≠ [])
    (alone : ∀ a, ∀ b ∈ f a, plain b → f a = [b]) {word : List β} {l : List α}
    (ends : word <:+ l.flatMap f) (letters : ∀ b ∈ word, plain b) :
    ∃ s t, l = s ++ t ∧ t.map f = word.map ([·]) := by
  induction l using List.reverseRecOn generalizing word with
  | nil =>
    have none : word = [] := List.suffix_nil.mp ends
    subst none
    exact ⟨[], [], rfl, rfl⟩
  | append_singleton l a ih =>
    cases word using List.reverseRecOn with
    | nil => exact ⟨l ++ [a], [], (List.append_nil _).symm, rfl⟩
    | append_singleton word b =>
      rw [List.flatMap_append, List.flatMap_singleton] at ends
      have last : b ∈ f a := by
        obtain ⟨front, eq⟩ := ends
        obtain ⟨init, x, image⟩ := List.eq_nil_or_concat (f a) |>.resolve_left (full a)
        rw [List.concat_eq_append] at image
        rw [image, ← List.append_assoc, ← List.append_assoc] at eq
        obtain ⟨-, same⟩ := List.append_inj' eq rfl
        rw [image, List.head_eq_of_cons_eq same]
        exact List.mem_append_right _ List.mem_cons_self
      have one := alone a b last (letters b (List.mem_append_right _ List.mem_cons_self))
      rw [one] at ends
      have shorter : word <:+ l.flatMap f := by
        obtain ⟨front, eq⟩ := ends
        rw [← List.append_assoc] at eq
        exact ⟨front, List.append_cancel_right eq⟩
      obtain ⟨s, t, rfl, same⟩ := ih shorter fun b mem => letters b (List.mem_append_left _ mem)
      refine ⟨s, t ++ [a], List.append_assoc _ _ _, ?_⟩
      rw [List.map_append, List.map_append, same, List.map_singleton, one]
      rfl

section Lower

/-- A character outside ASCII that no character outside ASCII has as a small form. -/
def isPlain (c : Char) : Bool :=
  c.toNat < 128 && c ≠ 'i' && c ≠ 'k'

/-- The images of a range of the table of small forms: outside ASCII, or one that is not plain. -/
def leadsOut (entry : ℕ × ℕ × ℕ × ℤ) : Bool :=
  (128 ≤ (entry.1 : ℤ) + entry.2.2.2 && (entry.2.1 : ℤ) + entry.2.2.2 < 0xd800) ||
    (0xe000 ≤ (entry.1 : ℤ) + entry.2.2.2 && (entry.2.1 : ℤ) + entry.2.2.2 < 0x110000) ||
    (entry.1 = entry.2.1 && !isPlain (Char.ofNat ((entry.1 : ℤ) + entry.2.2.2).toNat))

lemma toNat_ofNat {n : ℕ} (valid : n.isValidChar) : (Char.ofNat n).toNat = n := by
  rw [Char.ofNat, dif_pos valid]
  rfl

/-- Characters beyond ASCII are not plain. -/
lemma isPlain_of_high {n : ℕ} (valid : n.isValidChar) (high : 128 ≤ n) : isPlain (Char.ofNat n) = false := by
  rw [isPlain, toNat_ofNat valid, decide_eq_false (Nat.not_lt.mpr high)]
  rfl

/-- The tables lead from outside ASCII to ASCII in two places. -/
lemma not_isPlain_of_mem_mapWith {c b : Char} (high : 128 ≤ c.toNat)
    (mem : b ∈ mapWith lowerRanges lowerSpecial c) : isPlain b = false := by
  have specials : lowerSpecial.all (fun entry => entry.2.all fun n => !isPlain (Char.ofNat n)) = true := by decide
  have ranges : lowerRanges.all leadsOut = true := by decide +kernel
  rw [mapWith] at mem
  dsimp only at mem
  split at mem
  · rename_i image found
    obtain ⟨front, back, split, -⟩ := List.lookup_eq_some_iff.mp found
    have own : (c.toNat, image) ∈ lowerSpecial := by
      rw [split]
      exact List.mem_append_right _ List.mem_cons_self
    obtain ⟨n, memN, rfl⟩ := List.mem_map.mp mem
    exact (Bool.not_eq_true' _).mp (List.all_eq_true.mp (List.all_eq_true.mp specials _ own) n memN)
  · split at mem
    · -- a range maps its members by an offset, which leads out of ASCII
      rename_i first last step offset found
      have within := List.find?_some found
      have out := List.all_eq_true.mp ranges _ (List.mem_of_find?_eq_some found)
      rw [Bool.and_eq_true, Bool.and_eq_true, decide_eq_true_eq, decide_eq_true_eq] at within
      obtain ⟨⟨lower, upper⟩, -⟩ := within
      change c.toNat ≤ last at upper
      rw [List.mem_singleton] at mem
      subst mem
      rw [leadsOut, Bool.or_eq_true, Bool.or_eq_true, Bool.and_eq_true, Bool.and_eq_true, Bool.and_eq_true,
        decide_eq_true_eq, decide_eq_true_eq, decide_eq_true_eq, decide_eq_true_eq, decide_eq_true_eq,
        Bool.not_eq_true'] at out
      dsimp only at out
      rcases out with (⟨low, up⟩ | ⟨low, up⟩) | ⟨same, out⟩
      · apply isPlain_of_high
        · rw [Nat.isValidChar]
          omega
        · omega
      · apply isPlain_of_high
        · rw [Nat.isValidChar]
          omega
        · omega
      · have own : c.toNat = first := by omega
        rw [own]
        exact out
    · rw [List.mem_singleton] at mem
      subst mem
      rw [isPlain, decide_eq_false (Nat.not_lt.mpr high)]
      rfl

/-- A plain small form is the whole small form. -/
lemma lowerChar_eq_of_mem {c b : Char} (mem : b ∈ lowerChar c) (plain : isPlain b = true) : lowerChar c = [b] := by
  rw [lowerChar] at mem ⊢
  split
  · rename_i capital
    rw [if_pos capital, List.mem_singleton] at mem
    rw [mem]
  · rename_i capital
    rw [if_neg capital] at mem
    split
    · rename_i ascii
      rw [if_pos ascii, List.mem_singleton] at mem
      rw [mem]
    · rename_i ascii
      rw [if_neg ascii] at mem
      rw [not_isPlain_of_mem_mapWith (Nat.not_lt.mp ascii) mem] at plain
      cases plain

/-- Lower case never drops a character. -/
lemma lowerChar_ne_nil (c : Char) : lowerChar c ≠ [] := by
  have images : lowerSpecial.all (fun entry => !entry.2.isEmpty) = true := by decide
  rw [lowerChar]
  split
  · exact List.cons_ne_nil _ _
  · split
    · exact List.cons_ne_nil _ _
    · rw [mapWith]
      dsimp only
      split
      · rename_i image found
        obtain ⟨front, back, split, -⟩ := List.lookup_eq_some_iff.mp found
        have some := List.all_eq_true.mp images (c.toNat, image) (by
          rw [split]
          exact List.mem_append_right _ List.mem_cons_self)
        intro none
        rw [List.map_eq_nil_iff] at none
        rw [none] at some
        cases some
      · split
        · exact List.cons_ne_nil _ _
        · exact List.cons_ne_nil _ _

/-- Lowering a capital gives a small letter. -/
lemma isAsciiLower_of_upper {c : Char} (capital : isAsciiUpper c = true) :
    isAsciiLower (Char.ofNat (c.toNat + 32)) = true := by
  rw [isAsciiUpper, Bool.and_eq_true, decide_eq_true_eq, decide_eq_true_eq] at capital
  have least : 65 ≤ c.toNat := capital.1
  have most : c.toNat ≤ 90 := capital.2
  have valid : (c.toNat + 32).isValidChar := by
    rw [Nat.isValidChar]
    omega
  have same := toNat_ofNat valid
  have least' : 97 ≤ (Char.ofNat (c.toNat + 32)).toNat := by omega
  have most' : (Char.ofNat (c.toNat + 32)).toNat ≤ 122 := by omega
  rw [isAsciiLower, Bool.and_eq_true, decide_eq_true_eq, decide_eq_true_eq]
  exact ⟨least', most'⟩

/-- A plain small form that is no letter is the character itself. -/
lemma eq_of_lowerChar {c b : Char} (form : lowerChar c = [b]) (plain : isPlain b = true)
    (noLetter : isAsciiLower b = false) : c = b := by
  rw [lowerChar] at form
  split at form
  · rename_i capital
    rw [← List.head_eq_of_cons_eq form, isAsciiLower_of_upper capital] at noLetter
    cases noLetter
  · split at form
    · exact List.head_eq_of_cons_eq form
    · rename_i ascii
      have mem : b ∈ mapWith lowerRanges lowerSpecial c := by
        rw [form]
        exact List.mem_cons_self
      rw [not_isPlain_of_mem_mapWith (Nat.not_lt.mp ascii) mem] at plain
      cases plain

/-- A text whose small form ends in a plain word ends in the word, in either case. -/
theorem exists_lower_ending {word text : List Char} (ends : word <:+ text.flatMap lowerChar)
    (letters : ∀ b ∈ word, isPlain b = true) :
    ∃ s t, text = s ++ t ∧ t.map lowerChar = word.map ([·]) :=
  exists_ending (f := lowerChar) lowerChar_ne_nil (fun _ _ mem plain => lowerChar_eq_of_mem mem plain) ends letters

end Lower

end Jaull.Text
