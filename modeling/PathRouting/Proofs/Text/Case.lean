import Mathlib.Data.List.Forall2
import PathRouting.Proofs.Coercion
import PathRouting.Proofs.Text.Boundaries

/-!
# ASCII case

What the case of ASCII letters has no say in.  Word bytes and slashes are the same in every case,
so texts that agree up to case agree byte by byte in all that is asked of a path; and a text that is
read as a boolean or a number is read so in every case.
-/

namespace PathRouting.Text

/-! ## Bytes in lower case -/

theorem lowerByte_lowerByte (b : UInt8) : lowerByte (lowerByte b) = lowerByte b := by
  rw [← UInt8.toNat_inj, toNat_lowerByte, toNat_lowerByte]
  split_ifs <;> omega

theorem isWordByte_lowerByte (b : UInt8) : isWordByte (lowerByte b) = isWordByte b := by
  rw [Bool.eq_iff_iff, isWordByte_iff, isWordByte_iff, toNat_lowerByte]
  simp only [IsWordCode]
  split <;> omega

theorem lowerByte_eq_slash_iff {b : UInt8} : lowerByte b = slash ↔ b = slash := by
  have code : slash.toNat = 47 := rfl
  rw [← UInt8.toNat_inj, ← UInt8.toNat_inj, toNat_lowerByte, code]
  split <;> omega

/-- A text is taken off the front of some bytes in any case. -/
theorem dropText?_map_lowerByte (text bytes : List UInt8) :
    dropText? text (bytes.map lowerByte) = (dropText? text bytes).map (List.map lowerByte) := by
  induction text generalizing bytes with
  | nil => rw [dropText?_nil, dropText?_nil, Option.map_some]
  | cons t text ih =>
    cases bytes with
    | nil => rfl
    | cons b bytes =>
      rw [List.map_cons, dropText?, dropText?, lowerByte_lowerByte, ih]
      split <;> rfl

/-! ## Texts that agree up to case -/

variable {a b : String}

theorem sameIgnoringCase_iff : sameIgnoringCase a b = true ↔
    a.toList.map Char.toLower = b.toList.map Char.toLower :=
  beq_iff_eq

theorem sameIgnoringCase_comm (a b : String) : sameIgnoringCase a b = sameIgnoringCase b a := by
  rw [Bool.eq_iff_iff, sameIgnoringCase_iff, sameIgnoringCase_iff, eq_comm]

theorem sameIgnoringCase_congr (same : sameIgnoringCase a b = true) (word : String) :
    sameIgnoringCase a word = sameIgnoringCase b word := by
  rw [sameIgnoringCase, sameIgnoringCase_iff.mp same, ← sameIgnoringCase]

theorem toNat_toUpper (c : Char) :
    c.toUpper.toNat = if 97 ≤ c.toNat ∧ c.toNat ≤ 122 then c.toNat - 32 else c.toNat := by
  have small : ('a'.val ≤ c.val ∧ c.val ≤ 'z'.val) ↔ 97 ≤ c.toNat ∧ c.toNat ≤ 122 := by
    simp only [UInt32.le_iff_toNat_le, Char.toNat_val, Char.reduceToNat]
  unfold Char.toUpper
  by_cases isSmall : 97 ≤ c.toNat ∧ c.toNat ≤ 122
  · rw [dif_pos (small.mpr isSmall), if_pos isSmall]
    show (c.val + ('A'.val - 'a'.val)).toNat = c.toNat - 32
    -- The difference is taken modulo the width, so it adds up to the number less 32.
    have shift : ('A'.val - 'a'.val).toNat = 2 ^ 32 - 32 := rfl
    rw [UInt32.toNat_add, shift, Char.toNat_val]
    omega
  · rw [dif_neg (mt small.mp isSmall), if_neg isSmall]

theorem toLower_eq_iff {c letter : Char} (small : 97 ≤ letter.toNat ∧ letter.toNat ≤ 122) :
    c.toLower = letter.toLower ↔ c = letter ∨ c = letter.toUpper := by
  simp only [← Char.toNat_inj, toNat_toLower, toNat_toUpper, if_pos small]
  split_ifs <;> omega

/-- The text is the word, with each letter as it is or as a capital. -/
def Spells (text word : String) : Prop :=
  List.Forall₂ (fun c letter => c = letter ∨ c = letter.toUpper) text.toList word.toList

theorem sameIgnoringCase_iff_spells {text word : String}
    (small : ∀ letter ∈ word.toList, 97 ≤ letter.toNat ∧ letter.toNat ≤ 122) :
    sameIgnoringCase text word = true ↔ Spells text word := by
  rw [sameIgnoringCase_iff, ← List.forall₂_eq_eq_eq, List.forall₂_map_left_iff,
    List.forall₂_map_right_iff, Spells]
  generalize text.toList = chars
  generalize word.toList = letters at small
  induction letters generalizing chars with
  | nil => simp
  | cons letter letters ih =>
    obtain ⟨first, rest⟩ := List.forall_mem_cons.mp small
    cases chars with
    | nil => simp
    | cons c chars => rw [List.forall₂_cons, List.forall₂_cons, toLower_eq_iff first, ih chars rest]

theorem map_lowerByte_utf8 (same : sameIgnoringCase a b = true) :
    (utf8 a).map lowerByte = (utf8 b).map lowerByte := by
  rw [utf8_eq_encode, utf8_eq_encode, map_lowerByte_encode, map_lowerByte_encode,
    sameIgnoringCase_iff.mp same]

theorem toLower_ofUInt8 (b : UInt8) : (Char.ofUInt8 b).toLower = Char.ofUInt8 (lowerByte b) := by
  have code (b : UInt8) : (Char.ofUInt8 b).toNat = b.toNat := rfl
  rw [← Char.toNat_inj, toNat_toLower, code, code, toNat_lowerByte]

theorem sameIgnoringCase_asciiText {bytes others : List UInt8}
    (same : bytes.map lowerByte = others.map lowerByte) :
    sameIgnoringCase (asciiText bytes) (asciiText others) = true := by
  have lowered (bytes : List UInt8) :
      (asciiText bytes).toList.map Char.toLower = (bytes.map lowerByte).map Char.ofUInt8 := by
    rw [asciiText, String.toList_ofList, List.map_map, List.map_map]
    exact List.map_congr_left fun b _ => toLower_ofUInt8 b
  rw [sameIgnoringCase_iff, lowered, lowered, same]

end PathRouting.Text

namespace PathRouting.Value

open PathRouting.Text

/-! ## Values that are read from them -/

/-- Values that are the same, or texts that agree up to case. -/
inductive SameButCase : Value → Value → Prop where
  | same (value : Value) : SameButCase value value
  | texts {s t : String} (same : sameIgnoringCase s t = true) : SameButCase (.text s) (.text t)

variable {raw other : String}

theorem isDigit_toLower (c : Char) : c.toLower.isDigit = c.isDigit := by
  have digit (c : Char) : c.isDigit = true ↔ 48 ≤ c.toNat ∧ c.toNat ≤ 57 := by
    simp only [Char.isDigit, Bool.and_eq_true, decide_eq_true_eq, ge_iff_le,
      UInt32.le_iff_toNat_le, Char.toNat_val, Char.reduceToNat]
  rw [Bool.eq_iff_iff, digit, digit, toNat_toLower]
  split <;> omega

theorem IsDigits.eq_of_sameIgnoringCase (digits : IsDigits raw)
    (same : sameIgnoringCase raw other = true) : raw = other := by
  rw [sameIgnoringCase_iff] at same
  have lower : ∀ c ∈ raw.toList.map Char.toLower, c.isDigit = true := by
    refine List.forall_mem_map.mpr fun c member => ?_
    rw [isDigit_toLower]
    exact digits.2 c member
  have unchanged {text : String} (lower : ∀ c ∈ text.toList.map Char.toLower, c.isDigit = true) :
      text.toList.map Char.toLower = text.toList := by
    refine (List.map_congr_left fun c member => ?_).trans (List.map_id _)
    have digit := lower c.toLower (List.mem_map_of_mem member)
    rw [isDigit_toLower] at digit
    exact toLower_of_isDigit digit
  rw [← String.toList_inj, ← unchanged lower, same, unchanged (same ▸ lower)]

theorem sameButCase_coerce (same : sameIgnoringCase raw other = true) :
    SameButCase (coerce raw) (coerce other) := by
  have words := sameIgnoringCase_congr same
  have coerces := coerces_coerce raw
  generalize coerce raw = value at coerces
  cases coerces with
  | yes word =>
    rw [(Coerces.yes (words _ ▸ word)).coerce_eq]
    exact .same _
  | no word =>
    rw [(Coerces.no (words _ ▸ word)).coerce_eq]
    exact .same _
  | number digits fits =>
    obtain rfl := digits.eq_of_sameIgnoringCase same
    rw [(Coerces.number digits fits).coerce_eq]
    exact .same _
  | text notYes notNo unfit =>
    have unfit' (digits : IsDigits other) : maxInt < digitsToNat other.toList := by
      rw [sameIgnoringCase_comm] at same
      obtain rfl := digits.eq_of_sameIgnoringCase same
      exact unfit digits
    rw [(Coerces.text (words _ ▸ notYes) (words _ ▸ notNo) unfit').coerce_eq]
    exact .texts same

end PathRouting.Value
