import PathRouting.Text.Utf8

/-!
# Words

A word is what a token captures: one or more ASCII letters, digits and underscores.  This module
ties the characters of a word to its bytes, so that a word can be read off the bytes of a path and
written back to them.
-/

namespace PathRouting.Text

/-! ## Word characters and word bytes -/

def IsWordCode (n : Nat) : Prop :=
  48 ≤ n ∧ n ≤ 57 ∨ 65 ≤ n ∧ n ≤ 90 ∨ 97 ≤ n ∧ n ≤ 122 ∨ n = 95

theorem isWordChar_iff {c : Char} : isWordChar c = true ↔ IsWordCode c.toNat := by
  have underscore : c = '_' ↔ c.toNat = 95 := by
    rw [← Char.toNat_inj]
    rfl
  have alphabetic : c.isAlpha = (c.isUpper || c.isLower) := rfl
  have upper : c.isUpper = decide (c.val ≥ 'A'.val ∧ c.val ≤ 'Z'.val) := rfl
  have lower : c.isLower = (decide (c.val ≥ 'a'.val) && decide (c.val ≤ 'z'.val)) := rfl
  simp only [isWordChar, Char.isAlphanum, alphabetic, upper, lower, Char.isDigit,
    Bool.or_eq_true, Bool.and_eq_true, decide_eq_true_eq, beq_iff_eq, ge_iff_le,
    UInt32.le_iff_toNat_le, underscore, IsWordCode, Char.toNat_val, Char.reduceToNat]
  omega

theorem isWordByte_iff {b : UInt8} : isWordByte b = true ↔ IsWordCode b.toNat := by
  simp only [isWordByte, IsWordCode, Bool.or_eq_true, Bool.and_eq_true, decide_eq_true_eq,
    beq_iff_eq, UInt8.le_iff_toNat_le, ← UInt8.toNat_inj, UInt8.reduceToNat]
  omega

@[simp] theorem isWordByte_slash : isWordByte slash = false := rfl

theorem utf8EncodeChar_of_isWordChar {c : Char} (word : isWordChar c = true) :
    String.utf8EncodeChar c = [c.toUInt8] := by
  apply String.utf8EncodeChar_eq_singleton
  have code := isWordChar_iff.mp word
  have small : c.val.toNat ≤ 127 := by
    simp only [IsWordCode, ← Char.toNat_val] at code
    omega
  rw [Char.utf8Size, if_pos (UInt32.le_iff_toNat_le.mpr small)]

theorem isWordByte_toUInt8 {c : Char} (word : isWordChar c = true) :
    isWordByte c.toUInt8 = true := by
  have code := isWordChar_iff.mp word
  rw [isWordByte_iff]
  simp only [IsWordCode, Char.toUInt8, UInt32.toNat_toUInt8, Char.toNat_val] at code ⊢
  omega

theorem isWordChar_ofUInt8 {b : UInt8} (word : isWordByte b = true) :
    isWordChar (Char.ofUInt8 b) = true := by
  rw [isWordChar_iff]
  exact isWordByte_iff.mp word

@[simp] theorem toUInt8_ofUInt8 (b : UInt8) : (Char.ofUInt8 b).toUInt8 = b := by
  show b.toUInt32.toUInt8 = b
  exact UInt8.toUInt8_toUInt32 b

theorem ofUInt8_toUInt8 {c : Char} (word : isWordChar c = true) :
    Char.ofUInt8 c.toUInt8 = c := by
  have code := isWordChar_iff.mp word
  rw [← Char.toNat_inj]
  show c.toUInt8.toNat = c.toNat
  simp only [IsWordCode, Char.toUInt8, UInt32.toNat_toUInt8, Char.toNat_val] at code ⊢
  omega

/-! ## Words and their bytes -/

/-- One or more word characters. -/
def IsWord (word : String) : Prop :=
  word.toList ≠ [] ∧ ∀ c ∈ word.toList, isWordChar c = true

instance (word : String) : Decidable (IsWord word) :=
  decidable_of_iff (word.toList ≠ [] ∧ word.toList.all isWordChar = true)
    (and_congr_right fun _ => List.all_eq_true)

theorem utf8_ofList_of_isWordChar {chars : List Char}
    (word : ∀ c ∈ chars, isWordChar c = true) :
    utf8 (String.ofList chars) = chars.map Char.toUInt8 := by
  rw [utf8, String.toList_ofList]
  induction chars with
  | nil => rfl
  | cons c chars ih =>
      rw [List.flatMap_cons, utf8EncodeChar_of_isWordChar (word c List.mem_cons_self),
        ih fun d member => word d (List.mem_cons_of_mem c member)]
      rfl

namespace IsWord

variable {word : String}

theorem utf8_eq (isWord : IsWord word) : utf8 word = word.toList.map Char.toUInt8 := by
  have bytes := utf8_ofList_of_isWordChar isWord.2
  rwa [String.ofList_toList] at bytes

theorem utf8_ne_nil (isWord : IsWord word) : utf8 word ≠ [] := by
  simpa [isWord.utf8_eq] using isWord.1

theorem exists_length_utf8 (isWord : IsWord word) : ∃ n, (utf8 word).length = n + 1 :=
  Nat.exists_eq_succ_of_ne_zero fun empty =>
    isWord.utf8_ne_nil (List.eq_nil_of_length_eq_zero empty)

theorem isWordByte_of_mem (isWord : IsWord word) {b : UInt8} (member : b ∈ utf8 word) :
    isWordByte b = true := by
  rw [isWord.utf8_eq, List.mem_map] at member
  obtain ⟨c, member, rfl⟩ := member
  exact isWordByte_toUInt8 (isWord.2 c member)

theorem asciiText_utf8 (isWord : IsWord word) : asciiText (utf8 word) = word := by
  rw [asciiText, isWord.utf8_eq, List.map_map]
  conv => rhs; rw [← String.ofList_toList (s := word), ← List.map_id word.toList]
  congr 1
  exact List.map_congr_left fun c member => ofUInt8_toUInt8 (isWord.2 c member)

end IsWord

theorem utf8_asciiText {bytes : List UInt8} (word : ∀ b ∈ bytes, isWordByte b = true) :
    utf8 (asciiText bytes) = bytes := by
  have chars : ∀ c ∈ bytes.map Char.ofUInt8, isWordChar c = true := by
    intro c member
    obtain ⟨b, inside, rfl⟩ := List.mem_map.mp member
    exact isWordChar_ofUInt8 (word b inside)
  rw [asciiText, utf8_ofList_of_isWordChar chars, List.map_map]
  exact (List.map_congr_left fun b _ => toUInt8_ofUInt8 b).trans (List.map_id bytes)

theorem isWord_asciiText {bytes : List UInt8} (nonempty : bytes ≠ [])
    (word : ∀ b ∈ bytes, isWordByte b = true) : IsWord (asciiText bytes) := by
  refine ⟨by simpa [asciiText] using nonempty, ?_⟩
  intro c member
  rw [asciiText, String.toList_ofList, List.mem_map] at member
  obtain ⟨b, member, rfl⟩ := member
  exact isWordChar_ofUInt8 (word b member)

end PathRouting.Text
